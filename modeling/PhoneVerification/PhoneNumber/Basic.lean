import PhoneVerification.Named
import PhoneVerification.Text.Ascii
import PhoneVerification.Text.Blank
import PhoneVerification.Message.Key

/-!
# Phone numbers

A number in international form with the region it belongs to, and the reasons for which a text is
refused as a phone number.
-/

namespace PhoneVerification

/-- A phone number, by its international form. -/
structure PhoneNumber where
  e164 : String
  region : Option String
  deriving DecidableEq, Repr

namespace PhoneNumber

/-- A number that was not validated here, such as the one in a verification link. -/
def unchecked (number : String) : PhoneNumber :=
  ⟨Text.trim number, none⟩

/-- A number that someone else has validated. -/
def ofValidated (e164 : String) (region : Option String) : PhoneNumber :=
  ⟨Text.trim e164, region.map Text.upperAsciiText⟩

/-- The characters of a number with all but the first four and the last three hidden. A number of
less than eight characters is hidden altogether. -/
def mask (digits : List Char) : List Char :=
  if digits.length < 8 then ['*', '*', '*', '*']
  else
    digits.take 4 ++ List.replicate (digits.length - 7) '*' ++ digits.drop (digits.length - 3)

/-- The number as it may be logged. -/
def masked (p : PhoneNumber) : String :=
  String.ofList (mask p.e164.toList)

end PhoneNumber

/-- Why a text is refused as a phone number. -/
inductive PhoneRejection
  | empty
  | format
  | unsupportedRegion
  | notMobile
  deriving DecidableEq, Repr

namespace PhoneRejection

instance : Named PhoneRejection where
  all := [empty, format, unsupportedRegion, notMobile]
  name
    | empty => "empty"
    | format => "format"
    | unsupportedRegion => "unsupported-region"
    | notMobile => "not-mobile"
  mem_all := by intro a; cases a <;> decide
  find_name := by intro a; cases a <;> rfl

/-- The reason in plain words. -/
def text : PhoneRejection → String
  | empty => "empty phone number"
  | format => "malformed phone number"
  | unsupportedRegion => "unsupported region"
  | notMobile => "not a mobile number"

/-- The message shown to the user. -/
def messageKey : PhoneRejection → MessageKey
  | empty => .errorPhoneNumberFormat
  | format => .errorPhoneNumberFormat
  | unsupportedRegion => .errorAddressMalformed
  | notMobile => .errorAddressMalformed

end PhoneRejection

end PhoneVerification
