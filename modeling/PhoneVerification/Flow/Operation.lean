import PhoneVerification.Flow.Services
import PhoneVerification.Verification.Link

/-!
# Operations of a verification

A user enters a phone number, confirms it, enters the code from the text message and is handed
over to the issuance of a credential; a link in the message leads straight to its code. An
operation outside of its step is a fault and does nothing.
-/

namespace PhoneVerification.Flow

open Act

variable {σ α : Type}

/-- The fault of an operation that the step does not allow. -/
def notAllowed (action : String) (f : Flow) : Fault :=
  .invalidTransition action f.step

/-- Acts in one step only. -/
def inStep (step : Step) (action : String) (body : Act σ (Except Fault α)) :
    Act σ (Except Fault α) := do
  let f ← current
  if f.step = step then body else return .error (notAllowed action f)

@[simp] theorem run_inStep (step : Step) (action : String) (body : Act σ (Except Fault α))
    (w : World σ) :
    (inStep step action body).run w =
      if w.flow.step = step then body.run w else ⟨.error (notAllowed action w.flow), [], w⟩ := by
  by_cases h : w.flow.step = step <;> simp [inStep, h]

/-- Acts on the number of the flow. -/
def withPhone (action : String) (body : PhoneNumber → Act σ (Except Fault α)) :
    Act σ (Except Fault α) := do
  let f ← current
  match f.phone with
  | some phone => body phone
  | none => return .error (notAllowed action f)

/-- A flow at its first step, as it was never used. -/
def start (c : Config) : Flow where
  config := c

/-- Starts a flow. -/
def begin : Act σ Unit :=
  enter .phone

/-- The code is on its way. -/
def codeSent (dispatch : SmsDispatch) : Act σ Unit := do
  update fun f => { f with attempt := .sent, codeForm := {} }
  if (← current).config.announceSent then
    announce .info (Message.smsSent · dispatch.sender)
  else clearStatus
  enter .token

/-- The code could not be sent. -/
def codeNotSent (failure : ApiFailure) : Act σ Unit := do
  update fun f => { f with phoneForm.disabled := false }
  enter .phone
  announce .danger (Message.failure · failure)

/-- Goes on after the request to send a code. -/
def afterSend : Except ApiFailure SmsDispatch → Act σ Unit
  | .ok dispatch => codeSent dispatch
  | .error failure => codeNotSent failure

/-- Asks the service to send a code to the number of the flow. -/
def sendCode (s : Services σ) : Act σ (Except Fault Unit) :=
  withPhone "send a code" fun phone => do
    update fun f => { f with phoneForm.disabled := true }
    announce .info (Message.text · .sendingSms)
    publish
    let locale := (← current).config.locale
    let answer ← ask (.send phone locale) (s.sendCode phone locale)
    afterSend answer
    publish
    return .ok ()

/-- The number was refused. -/
def numberRefused (rejection : PhoneRejection) : Act σ Unit := do
  note .debug ("phone number refused: " ++ rejection.text)
  announce .warning (Message.text · rejection.messageKey)
  publish

/-- The number was accepted: it is confirmed first, or a code is sent at once. -/
def numberAccepted (s : Services σ) (phone : PhoneNumber) : Act σ (Except Fault Unit) := do
  update fun f => { f with phone := some phone, attempt := .notSent }
  if (← current).config.confirmStep then
    clearStatus
    enter .confirm
    publish
    return .ok ()
  else sendCode s

/-- Submits the form of the phone number. A refused number is answered by a warning. -/
def submitPhone (s : Services σ) (raw : String) : Act σ (Except Fault Unit) :=
  inStep .phone "submit a phone number" do
    update fun f => { f with phoneForm.input := raw }
    match ← ask (.validate raw) (s.validate raw) with
    | .error rejection =>
      numberRefused rejection
      return .ok ()
    | .ok phone => numberAccepted s phone

/-- Confirms the number. -/
def confirm (s : Services σ) : Act σ (Except Fault Unit) :=
  inStep .confirm "confirm" (sendCode s)

/-- The text for a refused code. How long to wait is not told. -/
def refusalText (failure : ApiFailure) (l : Locale) : String :=
  match failure with
  | .rateLimited _ => Message.rateLimited l none
  | .rejected _ => Message.failure l failure

/-- The code was refused. It stays in its form. -/
def codeRefused (failure : ApiFailure) : Act σ Unit := do
  update fun f => { f with attempt := .failed, codeForm.disabled := false }
  announce .danger (refusalText failure)

/-- Hands an accepted code over to the issuance. -/
def handOver (s : Services σ) (token : SessionToken) : Act σ Unit := do
  update fun f => { f with attempt := .verified }
  announce .info (Message.text · .issuingCredential)
  enter .done
  publish
  let c := (← current).config
  let options : IssuanceOptions := ⟨c.issuanceServer, c.locale⟩
  let outcome ← ask (.issue token options) (s.issue token options)
  note .info ("issuance ended: " ++ outcome.logText)
  announce outcome.status.1 (Message.text · outcome.status.2)

/-- Goes on after the request to exchange a code. -/
def afterVerify (s : Services σ) : Except ApiFailure SessionToken → Act σ Unit
  | .ok token => handOver s token
  | .error failure => codeRefused failure

/-- Exchanges a code. An empty one is answered by a warning. -/
def exchangeCode (s : Services σ) (phone : PhoneNumber) (code : VerificationCode) :
    Act σ Unit :=
  if code.isEmpty then announce .warning (Message.text · .errorCannotValidateToken)
  else do
    update fun f => { f with codeForm.disabled := true }
    announce .info (Message.text · .verifyingToken)
    publish
    let answer ← ask (.verify phone code) (s.verifyCode phone code)
    afterVerify s answer

/-- Submits the form of the code. -/
def submitCode (s : Services σ) (raw : String) : Act σ (Except Fault Unit) :=
  inStep .token "submit a code" (withPhone "submit a code" fun phone => do
    update fun f => { f with codeForm.input := raw }
    exchangeCode s phone (.normalize raw)
    publish
    return .ok ())

/-- Goes to the code that a link carries. -/
def resume (link : VerifyLink) : Act σ Unit := do
  let phone := PhoneNumber.unchecked link.phone
  update fun f => { f with
    phone := some phone
    phoneForm := ⟨phone.e164, true⟩
    attempt := .sent
    status := none }
  enter .token

/-- Follows the link in a text message and submits its code. Tells whether it is such a link. -/
def openLink (s : Services σ) (text : String) : Act σ (Except Fault Bool) := do
  match VerifyLink.parse? text with
  | none =>
    note .debug "ignoring link without verification fragment"
    return .ok false
  | some link =>
    note .info "resuming verification from link"
    resume link
    return (← submitCode s link.code).map fun _ => true

/-- Forgets the current attempt. -/
def forgetAttempt (f : Flow) : Flow :=
  { f with attempt := .notSent, codeForm := {}, phoneForm.disabled := false, status := none }

/-- Does what the back control says. Leaving is left to the caller. -/
def back : Act σ BackAction := do
  let action := (← current).controls.back
  match action with
  | .navigate step =>
    if step = .phone then update forgetAttempt
    enter step
    publish
  | .history | .hidden => pure ()
  return action

/-- Starts over. -/
def restart : Act σ Unit := do
  update fun f => forgetAttempt { f with phone := none, phoneForm.input := "" }
  enter .phone
  publish

/-- Shows every further change to the observer of this name, and to no other. -/
def observe (name : String) : Act σ Unit :=
  update fun f => { f with observer := some name }

end PhoneVerification.Flow
