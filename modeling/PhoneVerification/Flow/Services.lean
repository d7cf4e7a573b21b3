import PhoneVerification.Flow.Basic
import PhoneVerification.Issuance.Server
import PhoneVerification.PhoneNumber.Validator
import PhoneVerification.Verification.Client

/-!
# Services

What a flow relies on: a reader of phone numbers, the verification service and the issuance of
credentials.
-/

namespace PhoneVerification

/-- The services of a flow, acting in a world of their own. -/
structure Services (σ : Type) where
  validate : String → Action Effect σ (Except PhoneRejection PhoneNumber)
  sendCode : PhoneNumber → Locale → Action Effect σ (Except ApiFailure SmsDispatch)
  verifyCode : PhoneNumber → VerificationCode → Action Effect σ (Except ApiFailure SessionToken)
  issue : SessionToken → IssuanceOptions → Action Effect σ IssuanceOutcome

/-- The validator of a configuration. -/
def NumberValidator.ofConfig (c : Config) : NumberValidator :=
  ofRegions c.defaultRegion c.allowedRegions

namespace Services

variable {σ : Type}

/-- The services that a configuration names, over a network. -/
def ofConfig (c : Config) (net : Http.Network σ) : Services σ where
  validate raw := return (NumberValidator.ofConfig c).validate raw
  sendCode := (VerificationClient.ofConfig c).sendCode net
  verifyCode := (VerificationClient.ofConfig c).verifyCode net
  issue := IssuanceServer.issue net (PollBudget.ofConfig c)

end Services

end PhoneVerification
