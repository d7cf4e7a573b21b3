import PhoneVerification.Text.Blank
import PhoneVerification.Text.Uppercase

/-!
# Secrets

The code from the text message and the session token it is exchanged for. Neither shows its
content when it is described.
-/

namespace PhoneVerification

/-- The code from a text message, as it is sent to the service. -/
structure VerificationCode where
  text : String
  deriving DecidableEq

namespace VerificationCode

/-- What the user typed, without the blanks around it and in capitals. -/
def normalize (raw : String) : VerificationCode :=
  ⟨Text.uppercase (Text.trim raw)⟩

/-- Whether nothing but blanks was typed. -/
def isEmpty (c : VerificationCode) : Bool :=
  c.text.isEmpty

/-- The description of a code does not depend on it. -/
def description (_ : VerificationCode) : String :=
  "VerificationCode([REDACTED])"

end VerificationCode

/-- The signed request for a session, handed on as it is. -/
structure SessionToken where
  text : String
  deriving DecidableEq

/-- The description of a token does not depend on it. -/
def SessionToken.description (_ : SessionToken) : String :=
  "SessionToken([REDACTED])"

end PhoneVerification
