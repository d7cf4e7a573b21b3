import PhoneVerification.Flow.Services

/-!
# Scripted services

Services whose answers are prepared, one for each question in turn. Once the answers of a kind are
used up, a number is malformed, and everything else succeeds.
-/

namespace PhoneVerification

/-- The answers that are left. Without prepared validations a number is read by the validator. -/
structure Script where
  validations : Option (List (Except PhoneRejection PhoneNumber)) := none
  sends : List (Except ApiFailure SmsDispatch) := []
  verifies : List (Except ApiFailure SessionToken) := []
  outcomes : List IssuanceOutcome := []

namespace Script

/-- Reads a number, or gives the prepared answer. -/
def validate (v : NumberValidator) (raw : String) :
    Action Effect Script (Except PhoneRejection PhoneNumber) :=
  ⟨fun s =>
    match s.validations with
    | none => ⟨v.validate raw, [], s⟩
    | some answers =>
      ⟨answers.headD (.error .format), [], { s with validations := some answers.tail }⟩⟩

/-- The next answer to the request to send a code. -/
def nextSend : Action Effect Script (Except ApiFailure SmsDispatch) :=
  ⟨fun s => ⟨s.sends.headD (.ok ⟨none⟩), [], { s with sends := s.sends.tail }⟩⟩

/-- The next answer to a code. -/
def nextVerify : Action Effect Script (Except ApiFailure SessionToken) :=
  ⟨fun s => ⟨s.verifies.headD (.ok ⟨"jwt"⟩), [], { s with verifies := s.verifies.tail }⟩⟩

/-- The next outcome of an issuance. -/
def nextOutcome : Action Effect Script IssuanceOutcome :=
  ⟨fun s => ⟨s.outcomes.headD .success, [], { s with outcomes := s.outcomes.tail }⟩⟩

end Script

/-- The services that follow a script. -/
def Services.scripted (v : NumberValidator) : Services Script where
  validate := Script.validate v
  sendCode _ _ := Script.nextSend
  verifyCode _ _ := Script.nextVerify
  issue _ _ := Script.nextOutcome

end PhoneVerification
