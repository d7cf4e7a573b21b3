import PhoneVerification.Named

/-!
# Message keys

Every text that a user can see has a key.
-/

namespace PhoneVerification

inductive MessageKey
  | sendingSms
  | smsSent
  | smsSentFrom
  | verifyingToken
  | issuingCredential
  | buttonPhone
  | buttonConfirm
  | buttonToken
  | second
  | seconds
  | minute
  | minutes
  | hour
  | hours
  | retryLater
  | phoneAddSuccess
  | phoneAddTimeout
  | phoneAddCancel
  | phoneAddError
  | errorPhoneNumberFormat
  | errorInternal
  | errorSendingSms
  | errorRatelimit
  | errorCannotValidateToken
  | errorAddressMalformed
  deriving DecidableEq, Repr

namespace MessageKey

instance : Named MessageKey where
  all := [sendingSms, smsSent, smsSentFrom, verifyingToken, issuingCredential, buttonPhone,
    buttonConfirm, buttonToken, second, seconds, minute, minutes, hour, hours, retryLater,
    phoneAddSuccess, phoneAddTimeout, phoneAddCancel, phoneAddError, errorPhoneNumberFormat,
    errorInternal, errorSendingSms, errorRatelimit, errorCannotValidateToken,
    errorAddressMalformed]
  name
    | sendingSms => "sending-sms"
    | smsSent => "sms-sent"
    | smsSentFrom => "sms-sent-from"
    | verifyingToken => "verifying-token"
    | issuingCredential => "issuing-credential"
    | buttonPhone => "button-phone"
    | buttonConfirm => "button-confirm"
    | buttonToken => "button-token"
    | second => "second"
    | seconds => "seconds"
    | minute => "minute"
    | minutes => "minutes"
    | hour => "hour"
    | hours => "hours"
    | retryLater => "retry-later"
    | phoneAddSuccess => "phone-add-success"
    | phoneAddTimeout => "phone-add-timeout"
    | phoneAddCancel => "phone-add-cancel"
    | phoneAddError => "phone-add-error"
    | errorPhoneNumberFormat => "error:phone-number-format"
    | errorInternal => "error:internal"
    | errorSendingSms => "error:sending-sms"
    | errorRatelimit => "error:ratelimit"
    | errorCannotValidateToken => "error:cannot-validate-token"
    | errorAddressMalformed => "error:address-malformed"
  mem_all := by intro a; cases a <;> decide
  find_name := by intro a; cases a <;> rfl

end MessageKey

end PhoneVerification
