import PhoneVerification.Message.Table
import PhoneVerification.Verification.Dispatch
import PhoneVerification.Verification.ErrorCode

/-!
# Messages

The texts that a user sees, as they depend on the language and on what happened.
-/

namespace PhoneVerification.Message

/-- The text of a key as it stands in the table. -/
def text (l : Locale) (k : MessageKey) : String :=
  (MessageTable.template l k).raw

/-- The text for a code of the service. -/
def error (l : Locale) (code : ErrorCode) : String :=
  text l code.messageKey

/-- The key that announces a wait: the singular form for exactly one. -/
def waitKey (value : UInt64) : WaitUnit → MessageKey
  | .seconds => if value = 1 then .second else .seconds
  | .minutes => if value = 1 then .minute else .minutes
  | .hours => if value = 1 then .hour else .hours

/-- A wait, such as `2 minutes`. -/
def waitTime (l : Locale) (w : RetryWindow) : String :=
  let (value, unit) := w.scaled
  (MessageTable.template l (waitKey value unit)).fill .count (toString value.toNat)

/-- The request to wait, for as long as the window says or for a moment. -/
def rateLimited (l : Locale) (window : Option RetryWindow) : String :=
  let time := match window with
    | none => text l .retryLater
    | some w => waitTime l w
  (MessageTable.template l .errorRatelimit).fill .time time

/-- The text for a failed request. -/
def failure (l : Locale) : ApiFailure → String
  | .rateLimited window => rateLimited l window
  | .rejected code => error l code

/-- The announcement that a text message was sent. -/
def smsSent (l : Locale) : Option String → String
  | some sender => (MessageTable.template l .smsSentFrom).fill .number sender
  | none => text l .smsSent

end PhoneVerification.Message
