import PhoneVerification.Config.Basic
import PhoneVerification.Http.Form
import PhoneVerification.Http.Network
import PhoneVerification.PhoneNumber.Basic
import PhoneVerification.Verification.Code
import PhoneVerification.Verification.Dispatch
import PhoneVerification.Verification.ErrorCode

/-!
# The verification service

The two requests of the service: to send a code, and to exchange a code for a session token. Both
decode an answer in the same way; only the first one reads how long to wait.
-/

namespace PhoneVerification

/-- The addresses of the service. -/
structure VerificationClient where
  sendUrl : String
  verifyUrl : String
  deriving DecidableEq, Repr

namespace VerificationClient

variable {σ : Type}

/-- The service of a configuration. -/
def ofConfig (c : Config) : VerificationClient :=
  ⟨c.sendUrl, c.verifyUrl⟩

/-- The header that says how long to wait. -/
def retryHeader : String := "Retry-After"

/-- The request that posts a form. -/
def draft (address : String) (pairs : List (String × String)) : Http.Draft :=
  ⟨.post, address, some Http.Form.contentType, Http.Form.encode pairs⟩

/-- The failure of a request that was not answered in full. -/
def unanswered : ApiFailure :=
  .rejected .internal

/-- The body of an answer to a posted form, or the failure that the answer tells. -/
def readAnswer (address : String) (readsRetry : Bool) :
    Except Fault Http.Response → Action Effect σ (Except ApiFailure String)
  | .error fault => do
    Effect.note .error ("request to " ++ address ++ " failed: " ++ fault.text)
    return .error unanswered
  | .ok response => do
    match response.text? with
    | none =>
      Effect.note .error
        ("failed to read response from " ++ address ++ ": error decoding response body")
      return .error unanswered
    | some body =>
      if response.isSuccess then return .ok body
      else
        let retry := if readsRetry then response.header? retryHeader else none
        let failure := ApiFailure.decode body retry
        Effect.note .warn (address ++ " answered " ++ response.statusLine ++ ": " ++ failure.text)
        return .error failure

/-- Posts a form and reads the answer. -/
def postForm (net : Http.Network σ) (address : String) (pairs : List (String × String))
    (readsRetry : Bool) : Action Effect σ (Except ApiFailure String) := do
  readAnswer address readsRetry (← net.exchange (draft address pairs))

/-- The form that asks for a code. -/
def sendPairs (phone : PhoneNumber) (locale : Locale) : List (String × String) :=
  [("phone", phone.e164), ("language", locale.code)]

/-- The form that submits a code. -/
def verifyPairs (phone : PhoneNumber) (code : VerificationCode) : List (String × String) :=
  [("phone", phone.e164), ("token", code.text)]

/-- Asks the service to send a code to a number. -/
def sendCode (client : VerificationClient) (net : Http.Network σ) (phone : PhoneNumber)
    (locale : Locale) : Action Effect σ (Except ApiFailure SmsDispatch) := do
  match ← postForm net client.sendUrl (sendPairs phone locale) true with
  | .error failure => return .error failure
  | .ok body =>
    Effect.note .info ("SMS code sent to " ++ phone.masked)
    return .ok (.ofBody body)

/-- Exchanges a code for a session token. The token is the body as it is. -/
def verifyCode (client : VerificationClient) (net : Http.Network σ) (phone : PhoneNumber)
    (code : VerificationCode) : Action Effect σ (Except ApiFailure SessionToken) := do
  match ← postForm net client.verifyUrl (verifyPairs phone code) false with
  | .error failure => return .error failure
  | .ok body =>
    Effect.note .info ("SMS code verified for " ++ phone.masked)
    return .ok ⟨body⟩

end VerificationClient

end PhoneVerification
