import PhoneVerification.Text.Ascii
import PhoneVerification.Text.Blank

/-!
# Dispatch of a text message

The answer to a request that was carried out may tell from which number the message is sent.
-/

namespace PhoneVerification

/-- A text message on its way, with the number it is sent from if that is known. -/
structure SmsDispatch where
  sender : Option String
  deriving DecidableEq, Repr

namespace SmsDispatch

/-- What a body that names a sender starts with. -/
def mark : String := "OK:"

/-- Every body is accepted; only `OK:` followed by more than blanks names a sender. -/
def ofBody (body : String) : SmsDispatch :=
  ⟨((Text.after? mark (Text.trim body)).map Text.trim).filter fun s => !s.isEmpty⟩

end SmsDispatch

end PhoneVerification
