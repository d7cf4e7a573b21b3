import PhoneVerification.Config.Basic
import PhoneVerification.Effect
import PhoneVerification.Flow.Step
import PhoneVerification.Message.Render
import PhoneVerification.PhoneNumber.Basic
import PhoneVerification.Verification.Code

/-!
# The state of a verification

A `Flow` holds everything that is shown and where the current attempt stands. An action on it
leaves effects, exchanges with the services and published views behind.
-/

namespace PhoneVerification

/-- The button and the back control of a step. -/
structure Controls where
  button : Option MessageKey
  back : BackAction
  deriving DecidableEq, Repr

namespace Controls

/-- The label of the button. The last step has none. -/
def buttonOf : Step → Option MessageKey
  | .phone => some .buttonPhone
  | .confirm => some .buttonConfirm
  | .token => some .buttonToken
  | .done => none

/-- From the first step one may leave, if there is anywhere to go. -/
def backOf (historyAvailable : Bool) : Step → BackAction
  | .phone => if historyAvailable then .history else .hidden
  | .confirm | .token => .navigate .phone
  | .done => .hidden

/-- The controls that a step has. -/
def of (c : Config) (step : Step) : Controls :=
  ⟨buttonOf step, backOf c.historyAvailable step⟩

end Controls

/-- A form with one field. -/
@[ext]
structure TextForm where
  input : String := ""
  disabled : Bool := false
  deriving DecidableEq, Repr

@[ext]
structure Flow where
  config : Config
  step : Step := .phone
  controls : Controls := Controls.of config step
  phone : Option PhoneNumber := none
  attempt : Attempt := .notSent
  phoneForm : TextForm := {}
  codeForm : TextForm := {}
  status : Option StatusMessage := none
  observer : Option String := none
  deriving DecidableEq, Repr

/-- A question to one of the services, with the answer it got. -/
inductive Exchange
  | validate (raw : String) (answer : Except PhoneRejection PhoneNumber)
  | send (phone : PhoneNumber) (locale : Locale) (answer : Except ApiFailure SmsDispatch)
  | verify (phone : PhoneNumber) (code : VerificationCode)
      (answer : Except ApiFailure SessionToken)
  | issue (token : SessionToken) (options : IssuanceOptions) (answer : IssuanceOutcome)

/-- What an operation leaves behind: effects of the services, the answers they gave, and views
shown to an observer. -/
inductive Event
  | effect (e : Effect)
  | exchange (x : Exchange)
  | view (observer : String) (v : View)

namespace Flow

/-- What is shown. -/
def view (f : Flow) : View where
  step := f.step
  buttonLabel := f.controls.button.map (Message.text f.config.locale)
  back := f.controls.back
  status := f.status
  phoneInput := f.phoneForm.input
  phoneDisabled := f.phoneForm.disabled
  codeInput := f.codeForm.input
  codeDisabled := f.codeForm.disabled
  confirmNumber := f.phone.map PhoneNumber.e164

/-- The view that is shown to the observer, if there is one. -/
def shown (f : Flow) : List Event :=
  match f.observer with
  | some name => [.view name f.view]
  | none => []

/-- A flow together with the world of its services. -/
structure World (σ : Type) where
  flow : Flow
  services : σ

/-- An action on a flow. -/
abbrev Act (σ α : Type) : Type := Action Event (World σ) α

namespace Act

variable {σ α : Type}

/-- The flow as it is. -/
def current : Act σ Flow :=
  ⟨fun w => ⟨w.flow, [], w⟩⟩

/-- Changes the flow. -/
def update (f : Flow → Flow) : Act σ Unit :=
  ⟨fun w => ⟨(), [], { w with flow := f w.flow }⟩⟩

/-- Asks a service, which acts in its own world. -/
def ask (exchange : α → Exchange) (x : Action Effect σ α) : Act σ α :=
  ⟨fun w =>
    let o := x.run w.services
    ⟨o.value, o.events.map .effect ++ [.exchange (exchange o.value)],
      { w with services := o.world }⟩⟩

/-- Leaves a record in the log. -/
def note (level : Log.Level) (message : String) : Act σ Unit :=
  .emit (.effect (.log (.own level message)))

/-- Shows the flow to the observer, if there is one. -/
def publish : Act σ Unit :=
  ⟨fun w => ⟨(), w.flow.shown, w⟩⟩

/-- Goes to a step, with its controls. -/
def enter (step : Step) : Act σ Unit := do
  note .debug ("entering step " ++ Named.name step)
  update fun f => { f with step, controls := .of f.config step }

/-- Shows a status in the language of the flow. -/
def announce (severity : Severity) (body : Locale → String) : Act σ Unit := do
  let message : StatusMessage := ⟨severity, body (← current).config.locale⟩
  note .debug message.logText
  update fun f => { f with status := some message }

/-- Shows no status. -/
def clearStatus : Act σ Unit :=
  update fun f => { f with status := none }

@[simp] theorem run_current (w : World σ) : (current : Act σ Flow).run w = ⟨w.flow, [], w⟩ :=
  rfl

@[simp] theorem run_update (f : Flow → Flow) (w : World σ) :
    (update f : Act σ Unit).run w = ⟨(), [], ⟨f w.flow, w.services⟩⟩ :=
  rfl

@[simp] theorem run_ask (exchange : α → Exchange) (x : Action Effect σ α) (w : World σ) :
    (ask exchange x).run w =
      ⟨(x.run w.services).value,
        (x.run w.services).events.map .effect ++ [.exchange (exchange (x.run w.services).value)],
        ⟨w.flow, (x.run w.services).world⟩⟩ :=
  rfl

@[simp] theorem run_note (level : Log.Level) (message : String) (w : World σ) :
    (note level message).run w = ⟨(), [.effect (.log (.own level message))], w⟩ :=
  rfl

@[simp] theorem run_publish (w : World σ) :
    (publish : Act σ Unit).run w = ⟨(), w.flow.shown, w⟩ :=
  rfl

@[simp] theorem run_enter (step : Step) (w : World σ) :
    (enter step).run w =
      ⟨(), [.effect (.log (.own .debug ("entering step " ++ Named.name step)))],
        ⟨{ w.flow with step, controls := .of w.flow.config step }, w.services⟩⟩ :=
  rfl

@[simp] theorem run_announce (severity : Severity) (body : Locale → String) (w : World σ) :
    (announce severity body).run w =
      ⟨(), [.effect (.log (.own .debug
          (StatusMessage.logText ⟨severity, body w.flow.config.locale⟩)))],
        ⟨{ w.flow with status := some ⟨severity, body w.flow.config.locale⟩ }, w.services⟩⟩ :=
  rfl

@[simp] theorem run_clearStatus (w : World σ) :
    (clearStatus : Act σ Unit).run w = ⟨(), [], ⟨{ w.flow with status := none }, w.services⟩⟩ :=
  rfl

end Act

end Flow

end PhoneVerification
