import PhoneVerification.Message.Key
import PhoneVerification.RetryWindow

/-!
# Failures of the verification service

A refused request carries a body `error:<code>`. It is decoded once, together with the wait that
came with it.
-/

namespace PhoneVerification

/-- Why the service refused a request. -/
inductive ErrorCode
  | internal
  | sendingSms
  | rateLimit
  | cannotValidateToken
  | phoneNumberFormat
  | addressMalformed
  deriving DecidableEq, Repr

namespace ErrorCode

instance : Named ErrorCode where
  all := [internal, sendingSms, rateLimit, cannotValidateToken, phoneNumberFormat,
    addressMalformed]
  name
    | internal => "internal"
    | sendingSms => "sending-sms"
    | rateLimit => "ratelimit"
    | cannotValidateToken => "cannot-validate-token"
    | phoneNumberFormat => "phone-number-format"
    | addressMalformed => "address-malformed"
  mem_all := by intro a; cases a <;> decide
  find_name := by intro a; cases a <;> rfl

/-- What every error body starts with. -/
def mark : String := "error:"

/-- The code in a body. A body without a known code counts as an internal error. -/
def ofBody (body : String) : ErrorCode :=
  ((Text.after? mark (Text.trim body)).bind Named.ofName?).getD .internal

/-- The message shown to the user. -/
def messageKey : ErrorCode → MessageKey
  | internal => .errorInternal
  | sendingSms => .errorSendingSms
  | rateLimit => .errorRatelimit
  | cannotValidateToken => .errorCannotValidateToken
  | phoneNumberFormat => .errorPhoneNumberFormat
  | addressMalformed => .errorAddressMalformed

end ErrorCode

/-- A failed request: refused with a code, or one request too many. -/
inductive ApiFailure
  | rejected (code : ErrorCode)
  | rateLimited (retryAfter : Option RetryWindow)
  deriving DecidableEq, Repr

namespace ApiFailure

/-- The failure told by a body and by the wait in the header, if there is one. -/
def decode (body : String) (retryAfter : Option String) : ApiFailure :=
  match ErrorCode.ofBody body with
  | .rateLimit => .rateLimited (retryAfter.bind RetryWindow.ofHeader?)
  | code => .rejected code

/-- The code behind a failure. -/
def code : ApiFailure → ErrorCode
  | rejected code => code
  | rateLimited _ => .rateLimit

/-- The failure as a body tells it. -/
def text (f : ApiFailure) : String :=
  ErrorCode.mark ++ Named.name f.code

end ApiFailure

end PhoneVerification
