import PhoneVerification.PhoneNumber.Basic
import PhoneVerification.Region

/-!
# Validation of phone numbers

What a user types is brought into international form by `normalize`, and `validate` then asks for
an allowed region and, for Dutch numbers, for one that can receive text messages.
-/

namespace PhoneVerification

/-- What kind of line a number belongs to. -/
inductive LineType
  | mobile
  | fixedOrMobile
  | fixed
  | unknown
  deriving DecidableEq, Repr

/-- Whether a text message may be sent to such a line. -/
def LineType.acceptsSms (t : LineType) : Bool :=
  t != .fixed

/-- A reader of phone numbers: the calling code of national numbers, and the regions allowed. -/
structure NumberValidator where
  defaultCode : String
  allowed : List Region
  deriving Repr

namespace NumberValidator

/-- The validator for the named regions. Names that are not known are skipped, and an unknown
default region stands for the Netherlands. -/
def ofRegions (defaultRegion : String) (allowed : List String) : NumberValidator where
  defaultCode := (Region.callingCode? defaultRegion).getD Region.netherlands.callingCode
  allowed := allowed.filterMap Region.find?

/-- The validator for all known regions. -/
def standard : NumberValidator :=
  ofRegions Region.netherlands.name (Region.known.map Region.name)

/-- The characters that may stand between digits. -/
def isFiller (c : Char) : Bool :=
  c == ' ' || c == '-' || c == '.' || c == '(' || c == ')' || c == '/'

/-- Whether the digits after the plus sign make an international number: seven to fifteen of
them, the first not zero. -/
def isInternational : List Char → Bool
  | [] => false
  | first :: rest =>
    Text.isAsciiDigit first && first != '0' && rest.all Text.isAsciiDigit &&
      6 ≤ rest.length && rest.length ≤ 14

/-- The digits of the international number meant by national digits: two zeros lead abroad, one
zero stands for the calling code, and without a zero the calling code is left out. -/
def internationalDigits (callingCode : List Char) : List Char → List Char
  | '0' :: '0' :: rest => rest
  | '0' :: rest => callingCode ++ rest
  | digits => callingCode ++ digits

/-- Brings what the user typed into international form. -/
def normalize (v : NumberValidator) (raw : String) : Except PhoneRejection String :=
  let typed := Text.strip Text.isBlank raw.toList
  if typed.isEmpty then .error .empty
  else
    let compact := typed.filter fun c => !isFiller c
    let (plus, digits) := match compact with
      | '+' :: rest => (true, rest)
      | all => (false, all)
    if digits.isEmpty || !digits.all Text.isAsciiDigit then .error .format
    else
      let full := if plus then digits else internationalDigits v.defaultCode.toList digits
      if isInternational full then .ok (String.ofList ('+' :: full)) else .error .format

/-- The first allowed region whose calling code starts the digits of a number. -/
def regionOf? (v : NumberValidator) (digits : List Char) : Option Region :=
  v.allowed.find? fun r => r.callingCode.toList.isPrefixOf digits

/-- The line a number of the region belongs to. A Dutch number has nine digits after the calling
code; only Dutch numbers are told apart. -/
def lineType (region : Region) (digits : List Char) : Except PhoneRejection LineType :=
  if region.name != Region.netherlands.name then .ok .unknown
  else if digits.length != 11 then .error .format
  else
    match digits.drop 2 with
    | '6' :: _ => .ok .mobile
    | '9' :: '7' :: _ => .ok .fixedOrMobile
    | _ => .ok .fixed

/-- Reads a number that can receive text messages in an allowed region. -/
def validate (v : NumberValidator) (raw : String) : Except PhoneRejection PhoneNumber := do
  let e164 ← v.normalize raw
  let digits := e164.toList.drop 1
  match v.regionOf? digits with
  | none => .error .unsupportedRegion
  | some region =>
    let line ← lineType region digits
    if line.acceptsSms then .ok ⟨e164, some region.name⟩ else .error .notMobile

end NumberValidator

end PhoneVerification
