import PhoneVerification.Proofs.Flow.Planned

/-!
# Flows in two guises

A `Guise` is a pair of configurations that differ in presentation only, together with a relation
between failures that are to count as the same. Two flows are abreast in it if they are the same but
for what the configurations determine and for their statuses. What is told next to them is listed by
`Told`: it depends on the latest exchange, and every change keeps two flows abreast and tells
something of that list.

## Implementation notes

Statuses are kept apart from the flows, because a status is overwritten by every change that is shown.
So no change has to know what was told before.
-/

namespace PhoneVerification

/-- The configuration with nothing that only matters to the presentation. -/
def Config.unadorned (c : Config) : Config :=
  { c with locale := .en, phoneUtilsPath := "", announceSent := false, historyAvailable := false }

/-- Two configurations that differ in presentation only, and the failures that count as the same. -/
structure Guise where
  config : Config
  config' : Config
  unadorned_eq : config.unadorned = config'.unadorned
  failures : ApiFailure → ApiFailure → Prop

namespace Guise

variable (G : Guise)

theorem confirmStep_eq : G.config.confirmStep = G.config'.confirmStep := by
  have h := congrArg Config.confirmStep G.unadorned_eq
  exact h

theorem issuanceServer_eq : G.config.issuanceServer = G.config'.issuanceServer := by
  have h := congrArg Config.issuanceServer G.unadorned_eq
  exact h

end Guise

/-- The message about a code that was sent, if a configuration announces it. -/
def Config.announcement (c : Config) (dispatch : SmsDispatch) : Option StatusMessage :=
  if c.announceSent then some ⟨.info, Message.smsSent c.locale dispatch.sender⟩ else none

/-- Whether an exchange refuses a code. -/
def Exchange.refusesCode : Exchange → Bool
  | .verify _ _ (.error _) => true
  | _ => false

/-- What is told in two guises after the latest exchanges. -/
inductive Told (G : Guise) :
    Option Exchange → Option Exchange → Option StatusMessage → Option StatusMessage → Prop
  | nothing {x x' : Option Exchange} (hx : x.any Exchange.refusesCode = false) :
      Told G x x' none none
  | message {x x' : Option Exchange} (hx : x.any Exchange.refusesCode = false)
      (severity : Severity) (body : Locale → String) :
      Told G x x' (some ⟨severity, body G.config.locale⟩) (some ⟨severity, body G.config'.locale⟩)
  | sent (phone : PhoneNumber) (dispatch : SmsDispatch) :
      Told G (some (.send phone G.config.locale (.ok dispatch)))
        (some (.send phone G.config'.locale (.ok dispatch)))
        (G.config.announcement dispatch) (G.config'.announcement dispatch)
  | unsent (phone : PhoneNumber) {failure failure' : ApiFailure}
      (h : G.failures failure failure') :
      Told G (some (.send phone G.config.locale (.error failure)))
        (some (.send phone G.config'.locale (.error failure')))
        (some ⟨.danger, Message.failure G.config.locale failure⟩)
        (some ⟨.danger, Message.failure G.config'.locale failure'⟩)
  | refused (phone : PhoneNumber) (code : VerificationCode) {failure failure' : ApiFailure}
      (h : G.failures failure failure') :
      Told G (some (.verify phone code (.error failure)))
        (some (.verify phone code (.error failure')))
        (some ⟨.danger, Flow.refusalText failure G.config.locale⟩)
        (some ⟨.danger, Flow.refusalText failure' G.config'.locale⟩)

namespace Flow

/-- Flows that are the same but for their status and for what their configurations determine. -/
structure Abreast (G : Guise) (f g : Flow) : Prop where
  config : f.config = G.config
  config' : g.config = G.config'
  controls : f.controls = .of G.config f.step
  controls' : g.controls = .of G.config' g.step
  step : f.step = g.step
  attempt : f.attempt = g.attempt
  phone : f.phone = g.phone
  phoneForm : f.phoneForm = g.phoneForm
  codeForm : f.codeForm = g.codeForm
  observer : f.observer = g.observer

/-- Flows abreast with what is told next to them. -/
structure Shown (G : Guise) (x x' : Option Exchange) (f g : Flow) : Prop where
  flow : f.Abreast G g
  status : Told G x x' f.status g.status

namespace Abreast

variable {G : Guise} {f g : Flow} {x x' : Option Exchange}

theorem start (G : Guise) : (start G.config).Abreast G (Flow.start G.config') where
  config := rfl
  config' := rfl
  controls := rfl
  controls' := rfl
  step := rfl
  attempt := rfl
  phone := rfl
  phoneForm := rfl
  codeForm := rfl
  observer := rfl

theorem entering (h : f.Abreast G g) (step : Step) : (f.entering step).Abreast G (g.entering step) :=
  { h with
    controls := by simp only [Flow.entering, h.config]
    controls' := by simp only [Flow.entering, h.config']
    step := rfl }

/-- A message in the language of each flow. -/
theorem message (h : f.Abreast G g) (hx : x.any Exchange.refusesCode = false) (severity : Severity)
    (body : Locale → String) :
    Told G x x' (some ⟨severity, body f.config.locale⟩) (some ⟨severity, body g.config.locale⟩) := by
  rw [h.config, h.config']
  exact .message hx severity body

theorem numberWarned (h : f.Abreast G g) (raw : String) (rejection : PhoneRejection) :
    Shown G (some (.validate raw (.error rejection))) (some (.validate raw (.error rejection)))
      (f.numberWarned raw rejection) (g.numberWarned raw rejection) where
  flow := { h with phoneForm := by simp only [Flow.numberWarned, Flow.announcing, h.phoneForm] }
  status := h.message rfl .warning (Message.text · rejection.messageKey)

theorem numbered (h : f.Abreast G g) (raw : String) (phone : PhoneNumber) :
    (f.numbered raw phone).Abreast G (g.numbered raw phone) :=
  { h with
    attempt := rfl
    phone := rfl
    phoneForm := by simp only [Flow.numbered, h.phoneForm] }

theorem confirming (h : f.Abreast G g) (hx : x.any Exchange.refusesCode = false) :
    Shown G x x' f.confirming g.confirming where
  flow := {
    h with
    controls := by simp only [Flow.confirming, Flow.entering, h.config]
    controls' := by simp only [Flow.confirming, Flow.entering, h.config']
    step := rfl }
  status := .nothing hx

theorem sending (h : f.Abreast G g) (hx : x.any Exchange.refusesCode = false) :
    Shown G x x' f.sending g.sending where
  flow := { h with phoneForm := by simp only [Flow.sending, Flow.announcing, h.phoneForm] }
  status := h.message hx .info (Message.text · .sendingSms)

theorem sent (h : f.Abreast G g) (phone : PhoneNumber) (dispatch : SmsDispatch) :
    Shown G (some (.send phone G.config.locale (.ok dispatch)))
      (some (.send phone G.config'.locale (.ok dispatch))) (f.sent dispatch) (g.sent dispatch) where
  flow := {
    h with
    controls := by simp only [Flow.sent, Flow.entering, h.config]
    controls' := by simp only [Flow.sent, Flow.entering, h.config']
    step := rfl
    attempt := rfl
    codeForm := rfl }
  status := by
    have hstatus := Told.sent (G := G) phone dispatch
    rwa [← h.config, ← h.config'] at hstatus ⊢

theorem unsent (h : f.Abreast G g) (phone : PhoneNumber) {failure failure' : ApiFailure}
    (hfailure : G.failures failure failure') :
    Shown G (some (.send phone G.config.locale (.error failure)))
      (some (.send phone G.config'.locale (.error failure'))) (f.unsent failure)
      (g.unsent failure') where
  flow := {
    h with
    controls := by simp only [Flow.unsent, Flow.announcing, Flow.entering, h.config]
    controls' := by simp only [Flow.unsent, Flow.announcing, Flow.entering, h.config']
    step := rfl
    phoneForm := by simp only [Flow.unsent, Flow.announcing, Flow.entering, h.phoneForm] }
  status := by
    have hstatus := Told.unsent (G := G) phone hfailure
    rwa [← h.config, ← h.config'] at hstatus ⊢

theorem blankWarned (h : f.Abreast G g) (raw : String) :
    Shown G none none (f.blankWarned raw) (g.blankWarned raw) where
  flow := { h with codeForm := by simp only [Flow.blankWarned, Flow.announcing, h.codeForm] }
  status := h.message rfl .warning (Message.text · .errorCannotValidateToken)

theorem verifying (h : f.Abreast G g) (raw : String) :
    Shown G none none (f.verifying raw) (g.verifying raw) where
  flow := { h with codeForm := rfl }
  status := h.message rfl .info (Message.text · .verifyingToken)

theorem unverified (h : f.Abreast G g) (phone : PhoneNumber) (code : VerificationCode)
    {failure failure' : ApiFailure} (hfailure : G.failures failure failure') :
    Shown G (some (.verify phone code (.error failure)))
      (some (.verify phone code (.error failure'))) (f.unverified failure)
      (g.unverified failure') where
  flow := {
    h with
    attempt := rfl
    codeForm := by simp only [Flow.unverified, Flow.announcing, h.codeForm] }
  status := by
    have hstatus := Told.refused (G := G) phone code hfailure
    rwa [← h.config, ← h.config'] at hstatus

theorem verified (h : f.Abreast G g) (hx : x.any Exchange.refusesCode = false) :
    Shown G x x' f.verified g.verified where
  flow := {
    h with
    controls := by simp only [Flow.verified, Flow.announcing, Flow.entering, h.config]
    controls' := by simp only [Flow.verified, Flow.announcing, Flow.entering, h.config']
    step := rfl
    attempt := rfl }
  status := h.message hx .info (Message.text · .issuingCredential)

theorem concluded (h : f.Abreast G g) (hx : x.any Exchange.refusesCode = false)
    (outcome : IssuanceOutcome) : Shown G x x' (f.concluded outcome) (g.concluded outcome) where
  flow := { h with }
  status := h.message hx outcome.status.1 (Message.text · outcome.status.2)

theorem resumed (h : f.Abreast G g) (link : VerifyLink) :
    (f.resumed link).Abreast G (g.resumed link) :=
  { h with
    controls := by simp only [Flow.resumed, Flow.entering, h.config]
    controls' := by simp only [Flow.resumed, Flow.entering, h.config']
    step := rfl
    attempt := rfl
    phone := rfl
    phoneForm := rfl }

theorem forgetAttempt (h : f.Abreast G g) : f.forgetAttempt.Abreast G g.forgetAttempt :=
  { h with
    attempt := rfl
    phoneForm := by simp only [Flow.forgetAttempt, h.phoneForm]
    codeForm := rfl }

/-- Back at the phone number, nothing is told any more. -/
theorem wentToPhone (h : f.Abreast G g) :
    Shown G none none (f.wentTo .phone) (g.wentTo .phone) where
  flow := h.forgetAttempt.entering .phone
  status := .nothing rfl

theorem restarted (h : f.Abreast G g) : Shown G none none f.restarted g.restarted where
  flow := {
    h with
    controls := by simp only [Flow.restarted, Flow.entering, Flow.forgetAttempt, h.config]
    controls' := by simp only [Flow.restarted, Flow.entering, Flow.forgetAttempt, h.config']
    step := rfl
    attempt := rfl
    phone := rfl
    phoneForm := by simp only [Flow.restarted, Flow.entering, Flow.forgetAttempt]
    codeForm := rfl }
  status := .nothing rfl

theorem observed (h : f.Abreast G g) (name : String) :
    Flow.Abreast G { f with observer := some name } { g with observer := some name } :=
  { h with observer := rfl }

end Abreast

end Flow

end PhoneVerification
