import PhoneVerification.Proofs.Flow.Planned
import PhoneVerification.Proofs.Coupling

/-!
# Flows within a leeway

A `Leeway` says by how much the texts, numbers, codes, tokens and outcomes of two runs with the same
configuration may differ. Two flows are within a leeway if they are the same but for their number and
the texts in their forms, and these differ by no more than it allows. Every change keeps two flows
within it.

## Implementation notes

A leeway carries the laws that the changes rely on: what is typed, a number or a code gets into a form,
whether a code is blank decides what becomes of it, and an outcome is shown by its status. Nothing else
is asked of it.
-/

namespace PhoneVerification

/-- By how much two runs with a configuration may differ. -/
structure Leeway where
  config : Config
  typed : String → String → Prop
  numbers : PhoneNumber → PhoneNumber → Prop
  codes : String → String → Prop
  tokens : SessionToken → SessionToken → Prop
  outcomes : IssuanceOutcome → IssuanceOutcome → Prop
  inputs : String → String → Prop
  inputs_empty : inputs "" ""
  inputs_of_typed {raw raw' : String} : typed raw raw' → inputs raw raw'
  inputs_of_numbers {p p' : PhoneNumber} : numbers p p' → inputs p.e164 p'.e164
  inputs_of_codes {raw raw' : String} : codes raw raw' → inputs raw raw'
  isBlankText_of_codes {raw raw' : String} : codes raw raw' →
    Text.isBlankText raw = Text.isBlankText raw'
  status_of_outcomes {o o' : IssuanceOutcome} : outcomes o o' → o.status = o'.status

variable {L : Leeway}

/-- Operations that differ by no more than a leeway. Links differ in what they carry. -/
inductive Operation.Within (L : Leeway) : Operation → Operation → Prop
  | submitPhone {raw raw' : String} (h : L.typed raw raw') :
      Within L (.submitPhone raw) (.submitPhone raw')
  | confirm : Within L .confirm .confirm
  | submitCode {raw raw' : String} (h : L.codes raw raw') :
      Within L (.submitCode raw) (.submitCode raw')
  | linkIgnored {text text' : String} (h : VerifyLink.parse? text = none)
      (h' : VerifyLink.parse? text' = none) : Within L (.openLink text) (.openLink text')
  | linkFollowed {text text' : String} {link link' : VerifyLink}
      (h : VerifyLink.parse? text = some link) (h' : VerifyLink.parse? text' = some link')
      (hphone : L.numbers (.unchecked link.phone) (.unchecked link'.phone))
      (hcode : L.codes link.code link'.code) : Within L (.openLink text) (.openLink text')
  | back : Within L .back .back
  | restart : Within L .restart .restart
  | observe (name : String) : Within L (.observe name) (.observe name)

/-- Questions that differ by no more than a leeway. -/
inductive Question.Within (L : Leeway) : {α : Type} → Question α → Question α → Prop
  | validate {raw raw' : String} (h : L.typed raw raw') :
      Within L (.validate raw) (.validate raw')
  | send {p p' : PhoneNumber} (h : L.numbers p p') :
      Within L (.send p L.config.locale) (.send p' L.config.locale)
  | verify {p p' : PhoneNumber} (h : L.numbers p p') {raw raw' : String} (hcode : L.codes raw raw') :
      Within L (.verify p (.normalize raw)) (.verify p' (.normalize raw'))
  | issue {token token' : SessionToken} (h : L.tokens token token') :
      Within L (.issue token ⟨L.config.issuanceServer, L.config.locale⟩)
        (.issue token' ⟨L.config.issuanceServer, L.config.locale⟩)

/-- Answers to a question that differ by no more than a leeway. -/
def Question.AnswersWithin (L : Leeway) {α : Type} : Question α → α → α → Prop
  | .validate _ => Agree L.numbers
  | .send _ _ => Eq
  | .verify _ _ => Agree L.tokens
  | .issue _ _ => L.outcomes

namespace Flow

/-- Flows that are the same but for the number and the forms, which differ by no more than a
leeway. -/
structure Within (L : Leeway) (f g : Flow) : Prop where
  config : f.config = L.config
  config' : g.config = L.config
  step : f.step = g.step
  controls : f.controls = g.controls
  attempt : f.attempt = g.attempt
  phoneDisabled : f.phoneForm.disabled = g.phoneForm.disabled
  codeDisabled : f.codeForm.disabled = g.codeForm.disabled
  status : f.status = g.status
  observer : f.observer = g.observer
  phone : Option.Rel L.numbers f.phone g.phone
  phoneInput : L.inputs f.phoneForm.input g.phoneForm.input
  codeInput : L.inputs f.codeForm.input g.codeForm.input

namespace Within

variable {f g : Flow} {p p' : PhoneNumber} {raw raw' : String}

theorem start : Within L (start L.config) (start L.config) where
  config := rfl
  config' := rfl
  step := rfl
  controls := rfl
  attempt := rfl
  phoneDisabled := rfl
  codeDisabled := rfl
  status := rfl
  observer := rfl
  phone := .none
  phoneInput := L.inputs_empty
  codeInput := L.inputs_empty

theorem config_eq (h : Within L f g) : f.config = g.config :=
  h.config.trans h.config'.symm

theorem announcing (h : Within L f g) (severity : Severity) (body : Locale → String) :
    Within L (f.announcing severity body) (g.announcing severity body) :=
  { h with status := by simp only [Flow.announcing, h.config_eq] }

theorem entering (h : Within L f g) (step : Step) : Within L (f.entering step) (g.entering step) :=
  { h with
    step := rfl
    controls := by simp only [Flow.entering, h.config_eq] }

theorem numberWarned (h : Within L f g) (hraw : L.typed raw raw') (rejection : PhoneRejection) :
    Within L (f.numberWarned raw rejection) (g.numberWarned raw' rejection) := by
  have hinput : Within L { f with phoneForm.input := raw } { g with phoneForm.input := raw' } :=
    { h with phoneInput := L.inputs_of_typed hraw }
  exact hinput.announcing _ _

theorem numbered (h : Within L f g) (hraw : L.typed raw raw') (hphone : L.numbers p p') :
    Within L (f.numbered raw p) (g.numbered raw' p') :=
  { h with
    attempt := rfl
    phone := .some hphone
    phoneInput := L.inputs_of_typed hraw }

theorem confirming (h : Within L f g) : Within L f.confirming g.confirming := by
  have hsilent : Within L { f with status := none } { g with status := none } :=
    { h with status := rfl }
  exact hsilent.entering _

theorem sending (h : Within L f g) : Within L f.sending g.sending := by
  have hdisabled : Within L { f with phoneForm.disabled := true }
      { g with phoneForm.disabled := true } :=
    { h with phoneDisabled := rfl }
  exact hdisabled.announcing _ _

theorem sent (h : Within L f g) (dispatch : SmsDispatch) :
    Within L (f.sent dispatch) (g.sent dispatch) := by
  have hstatus : f.sentStatus dispatch = g.sentStatus dispatch := by
    simp only [sentStatus, h.config_eq]
  have hforgotten : Within L
      { f with attempt := .sent, codeForm := {}, status := f.sentStatus dispatch }
      { g with attempt := .sent, codeForm := {}, status := g.sentStatus dispatch } :=
    { h with
      attempt := rfl
      codeDisabled := rfl
      status := hstatus
      codeInput := L.inputs_empty }
  exact hforgotten.entering _

theorem unsent (h : Within L f g) (failure : ApiFailure) :
    Within L (f.unsent failure) (g.unsent failure) := by
  have henabled : Within L { f with phoneForm.disabled := false }
      { g with phoneForm.disabled := false } :=
    { h with phoneDisabled := rfl }
  exact (henabled.entering _).announcing _ _

theorem blankWarned (h : Within L f g) (hraw : L.codes raw raw') :
    Within L (f.blankWarned raw) (g.blankWarned raw') := by
  have hinput : Within L { f with codeForm.input := raw } { g with codeForm.input := raw' } :=
    { h with codeInput := L.inputs_of_codes hraw }
  exact hinput.announcing _ _

theorem verifying (h : Within L f g) (hraw : L.codes raw raw') :
    Within L (f.verifying raw) (g.verifying raw') := by
  have hinput : Within L { f with codeForm := ⟨raw, true⟩ } { g with codeForm := ⟨raw', true⟩ } :=
    { h with
      codeDisabled := rfl
      codeInput := L.inputs_of_codes hraw }
  exact hinput.announcing _ _

theorem unverified (h : Within L f g) (failure : ApiFailure) :
    Within L (f.unverified failure) (g.unverified failure) := by
  have hfailed : Within L { f with attempt := .failed, codeForm.disabled := false }
      { g with attempt := .failed, codeForm.disabled := false } :=
    { h with
      attempt := rfl
      codeDisabled := rfl }
  exact hfailed.announcing _ _

theorem verified (h : Within L f g) : Within L f.verified g.verified := by
  have hverified : Within L { f with attempt := .verified } { g with attempt := .verified } :=
    { h with attempt := rfl }
  exact (hverified.announcing _ _).entering _

theorem concluded (h : Within L f g) {outcome outcome' : IssuanceOutcome}
    (houtcome : L.outcomes outcome outcome') :
    Within L (f.concluded outcome) (g.concluded outcome') := by
  unfold Flow.concluded
  rw [L.status_of_outcomes houtcome]
  exact h.announcing _ _

theorem resumed (h : Within L f g) {link link' : VerifyLink}
    (hphone : L.numbers (.unchecked link.phone) (.unchecked link'.phone)) :
    Within L (f.resumed link) (g.resumed link') := by
  have hnumber : Within L
      { f with
        phone := some (.unchecked link.phone)
        phoneForm := ⟨(PhoneNumber.unchecked link.phone).e164, true⟩
        attempt := .sent
        status := none }
      { g with
        phone := some (.unchecked link'.phone)
        phoneForm := ⟨(PhoneNumber.unchecked link'.phone).e164, true⟩
        attempt := .sent
        status := none } :=
    { h with
      attempt := rfl
      phoneDisabled := rfl
      status := rfl
      phone := .some hphone
      phoneInput := L.inputs_of_numbers hphone }
  exact hnumber.entering _

theorem forgetAttempt (h : Within L f g) : Within L f.forgetAttempt g.forgetAttempt :=
  { h with
    attempt := rfl
    phoneDisabled := rfl
    codeDisabled := rfl
    status := rfl
    codeInput := L.inputs_empty }

theorem wentTo (h : Within L f g) (step : Step) : Within L (f.wentTo step) (g.wentTo step) := by
  unfold Flow.wentTo
  split
  · exact h.forgetAttempt.entering _
  · exact h.entering _

theorem restarted (h : Within L f g) : Within L f.restarted g.restarted := by
  have hnumberless : Within L { f with phone := none, phoneForm.input := "" }
      { g with phone := none, phoneForm.input := "" } :=
    { h with
      phone := .none
      phoneInput := L.inputs_empty }
  exact hnumberless.forgetAttempt.entering _

theorem observed (h : Within L f g) (name : String) :
    Within L { f with observer := some name } { g with observer := some name } :=
  { h with observer := rfl }

end Within

end Flow

end PhoneVerification
