import PhoneVerification.Flow.Script
import PhoneVerification.Proofs.Flow.Alike
import PhoneVerification.Proofs.Flow.Consistency

/-!
# An earlier attempt leaves no trace

What an attempt reads or shows is either set by the attempt before it is read, or is the same in all
consistent flows at that step. So a link, an accepted number and a code have outcomes that do not
depend on what was tried before, and a retry is like a first try.
-/

namespace PhoneVerification.Flow

variable {σ τ : Type}

/-- A world that some operations lead to. -/
def Reached (s : Services σ) (c : Config) (w : World σ) : Prop :=
  ∃ ops v, w = worldAfter s ops (opened c v)

theorem Reached.consistent {s : Services σ} {c : Config} {w : World σ} (h : Reached s c w) :
    ∃ asked, Consistent c asked w.flow := by
  obtain ⟨ops, v, rfl⟩ := h
  exact ⟨_, consistent_worldAfter s c v ops⟩

section Same

variable {f g : Flow} {o p : Option String} {a b : Plan}

theorem same_recordStep (hstep : f.step = g.step) (h : Plan.Same o p a b) :
    Plan.Same o p (f.recordStep a) (g.recordStep b) := by
  unfold recordStep
  rw [hstep]
  exact .notes _ h

theorem same_recordStatus (hstatus : f.status = g.status) (h : Plan.Same o p a b) :
    Plan.Same o p (f.recordStatus a) (g.recordStatus b) := by
  unfold recordStatus
  rw [hstatus]
  split
  · exact .notes _ h
  · exact h

theorem same_showing (reply : Reply) (hf : f.observer = o) (hg : g = f.watchedBy p) :
    Plan.Same o p (f.showing reply) (g.showing reply) := by
  subst hg
  exact .shows rfl (.ends reply hf rfl)

/-- Sending a code sets the status, so the one before does not matter. -/
theorem same_sendPlan {status : Option StatusMessage} (hf : f.observer = o)
    (hg : g = { f with status := status, observer := p }) (phone : PhoneNumber) :
    Plan.Same o p (f.sendPlan phone) (g.sendPlan phone) := by
  subst hg
  refine same_recordStatus rfl (.shows rfl (.asks _ fun answer => ?_))
  cases answer with
  | ok dispatch =>
      exact same_recordStatus rfl (same_recordStep rfl (same_showing .done hf rfl))
  | error failure =>
      exact same_recordStep rfl (same_recordStatus rfl (same_showing .done hf rfl))

/-- The status before an accepted number does not matter, whether the number is confirmed or not. -/
theorem same_acceptPlan {status : Option StatusMessage} (hf : f.observer = o)
    (hg : g = { f with status := status, observer := p }) (phone : PhoneNumber) :
    Plan.Same o p (f.acceptPlan phone) (g.acceptPlan phone) := by
  have hsend := same_sendPlan hf hg phone
  subst hg
  unfold acceptPlan
  split
  · exact same_recordStep rfl (same_showing .done hf rfl)
  · exact hsend

/-- Exchanging a code sets its form and the status, and every answer sets the attempt. -/
theorem same_verifyPlan {attempt : Attempt} {codeForm : TextForm} {status : Option StatusMessage}
    (hf : f.observer = o)
    (hg : g = { f with
      attempt := attempt, codeForm := codeForm, status := status, observer := p })
    (reply : Reply) (phone : PhoneNumber) (raw : String) :
    Plan.Same o p (f.verifyPlan reply phone raw) (g.verifyPlan reply phone raw) := by
  subst hg
  unfold verifyPlan
  refine same_recordStatus ?_ (.shows ?_ (.asks _ fun answer => ?_))
  · rfl
  · rfl
  · cases answer with
    | ok token =>
        refine same_recordStatus rfl (same_recordStep rfl (.shows rfl (.asks _ fun outcome => ?_)))
        exact .notes _ (same_recordStatus rfl (same_showing reply hf rfl))
    | error failure => exact same_recordStatus rfl (same_showing reply hf rfl)

end Same

section Reached

variable {R : σ → τ → Prop} {s : Services σ} {t : Services τ} {c : Config} {x : World σ}
  {y : World τ}

/-- A link sets everything but the form of the code, whatever the steps are. -/
theorem alike_openLink (hanswers : AnswersAlike R s t) (hR : R x.services y.services)
    (hconfig : y.flow.config = x.flow.config) {text : String}
    (hlink : (VerifyLink.parse? text).isSome = true) :
    Alike R x.flow.observer y.flow.observer ((perform s (.openLink text)).run x)
      ((perform t (.openLink text)).run y) := by
  obtain ⟨link, hlink⟩ := Option.isSome_iff_exists.mp hlink
  rw [perform_eq_follow, perform_eq_follow]
  refine Plan.Same.follow ?_ hanswers hR
  simp only [plan, hlink, linkPlan]
  have hresumed : y.flow.resumed link = { x.flow.resumed link with
      codeForm := y.flow.codeForm, observer := y.flow.observer } := by
    simp [resumed, entering, hconfig]
  exact .notes _ (same_recordStep rfl (same_verifyPlan rfl hresumed _ _ _))

/-- At the phone number all consistent flows are the same but for the last number and status. -/
theorem alike_submitPhone (hanswers : AnswersAlike R s t) (hR : R x.services y.services)
    {asked answered : List Exchange} (hx : Consistent c asked x.flow)
    (hy : Consistent c answered y.flow) (hxstep : x.flow.step = .phone)
    (hystep : y.flow.step = .phone) {raw : String} {phone : PhoneNumber}
    (haccept : ((s.validate raw).run x.services).value = .ok phone) :
    Alike R x.flow.observer y.flow.observer ((perform s (.submitPhone raw)).run x)
      ((perform t (.submitPhone raw)).run y) := by
  rw [perform_eq_follow, perform_eq_follow]
  simp only [plan, stepPlan, hxstep, hystep, if_true]
  refine Alike.asks hanswers _ hR fun hnext => ?_
  simp only [Services.answer, haccept] at hnext ⊢
  have hcontrols : y.flow.controls = x.flow.controls := by
    rw [hx.controls, hy.controls, hxstep, hystep]
  have hphoneForm : y.flow.phoneForm.disabled = x.flow.phoneForm.disabled := by
    rw [hx.phoneForm_enabled (.inl hxstep), hy.phoneForm_enabled (.inl hystep)]
  have hcodeForm : y.flow.codeForm = x.flow.codeForm := by
    rw [hx.codeForm_eq (.inl hxstep), hy.codeForm_eq (.inl hystep)]
  have hnumbered : y.flow.numbered raw phone = { x.flow.numbered raw phone with
      status := y.flow.status, observer := y.flow.observer } := by
    simp only [numbered, hx.config, hy.config, hxstep, hystep, hcontrols, hphoneForm, hcodeForm]
  exact (same_acceptPlan rfl hnumbered phone).follow hanswers hnext

/-- At the code all consistent flows with the same number are the same but for the attempt, the
form of the code and the status. -/
theorem alike_submitCode (hanswers : AnswersAlike R s t) (hR : R x.services y.services)
    {asked answered : List Exchange} (hx : Consistent c asked x.flow)
    (hy : Consistent c answered y.flow) (hxstep : x.flow.step = .token)
    (hystep : y.flow.step = .token) (hphone : x.flow.phone = y.flow.phone)
    (hinput : x.flow.phoneForm.input = y.flow.phoneForm.input) {raw : String}
    (hraw : Text.isBlankText raw = false) :
    Alike R x.flow.observer y.flow.observer ((perform s (.submitCode raw)).run x)
      ((perform t (.submitCode raw)).run y) := by
  rw [perform_eq_follow, perform_eq_follow]
  refine Plan.Same.follow ?_ hanswers hR
  obtain ⟨phone, hsome⟩ := Option.isSome_iff_exists.mp (hx.phone (by simp [hxstep]))
  simp only [plan, stepPlan, hxstep, hystep, if_true, numberPlan, ← hphone, hsome, codePlan, hraw,
    Bool.false_eq_true, if_false]
  have hconfig : x.flow.config = y.flow.config := hx.config.trans hy.config.symm
  have hstep : x.flow.step = y.flow.step := hxstep.trans hystep.symm
  have hcontrols : x.flow.controls = y.flow.controls := by
    rw [hx.controls, hy.controls, hstep]
  have hdisabled : x.flow.phoneForm.disabled = y.flow.phoneForm.disabled := by
    rw [hx.phoneDisabled.mpr (.inl hxstep), hy.phoneDisabled.mpr (.inl hystep)]
  have hphoneForm : x.flow.phoneForm = y.flow.phoneForm := by
    calc
      x.flow.phoneForm = ⟨x.flow.phoneForm.input, x.flow.phoneForm.disabled⟩ := rfl
      _ = ⟨y.flow.phoneForm.input, y.flow.phoneForm.disabled⟩ := by rw [hinput, hdisabled]
  have hflow : y.flow = { x.flow with
      attempt := y.flow.attempt, codeForm := y.flow.codeForm, status := y.flow.status,
      observer := y.flow.observer } := by
    simp only [hconfig, hstep, hcontrols, hphone, hphoneForm]
  exact same_verifyPlan rfl hflow _ _ _

/-- What an attempt comes to is independent of the runs before it, if the services answer alike from
then on. -/
theorem alike_of_reached (hanswers : AnswersAlike R s t) (hx : Reached s c x) (hy : Reached t c y)
    (hR : R x.services y.services) :
    (∀ text, (VerifyLink.parse? text).isSome = true →
      Alike R x.flow.observer y.flow.observer ((perform s (.openLink text)).run x)
        ((perform t (.openLink text)).run y)) ∧
    (x.flow.step = .phone → y.flow.step = .phone → ∀ raw phone,
      ((s.validate raw).run x.services).value = .ok phone →
      Alike R x.flow.observer y.flow.observer ((perform s (.submitPhone raw)).run x)
        ((perform t (.submitPhone raw)).run y)) ∧
    (x.flow.step = .token → y.flow.step = .token → x.flow.phone = y.flow.phone →
      x.flow.phoneForm.input = y.flow.phoneForm.input → ∀ raw, Text.isBlankText raw = false →
      Alike R x.flow.observer y.flow.observer ((perform s (.submitCode raw)).run x)
        ((perform t (.submitCode raw)).run y)) := by
  obtain ⟨asked, hxf⟩ := hx.consistent
  obtain ⟨answered, hyf⟩ := hy.consistent
  refine ⟨fun text hlink => ?_, fun hxstep hystep raw phone haccept => ?_,
    fun hxstep hystep hphone hinput raw hraw => ?_⟩
  · exact alike_openLink hanswers hR (hyf.config.trans hxf.config.symm) hlink
  · exact alike_submitPhone hanswers hR hxf hyf hxstep hystep haccept
  · exact alike_submitCode hanswers hR hxf hyf hxstep hystep hphone hinput hraw

end Reached

/-- Where some operations lead if a script answers them. -/
def scriptedAfter (ops : List Operation) (script : Script) : World Script :=
  worldAfter (.scripted .standard) ops (opened { confirmStep := false } script)

theorem reached_scriptedAfter (ops : List Operation) (script : Script) :
    Reached (.scripted .standard) { confirmStep := false } (scriptedAfter ops script) :=
  ⟨ops, script, rfl⟩

/-- The code for a number could not be sent. -/
def unsentOnce : World Script :=
  scriptedAfter [.submitPhone "+31612345678"] { sends := [.error (.rejected .internal)] }

/-- The first code for a number was refused. -/
def refusedOnce : World Script :=
  scriptedAfter [.submitPhone "+31612345678", .submitCode "1"]
    { verifies := [.error (.rejected .internal)] }

/-- Retries after a code that could not be sent and after a code that was refused. -/
theorem alike_retries :
    Alike Eq none none ((perform (.scripted .standard) (.openLink "#!verify:1:2")).run unsentOnce)
        ((perform (.scripted .standard) (.openLink "#!verify:1:2")).run refusedOnce) ∧
      (unsentOnce.flow.step = .phone ∧ (scriptedAfter [] {}).flow.step = .phone ∧
        Alike Eq none none
          ((perform (.scripted .standard) (.submitPhone "+31612345678")).run unsentOnce)
          ((perform (.scripted .standard) (.submitPhone "+31612345678")).run
            (scriptedAfter [] {}))) ∧
      (refusedOnce.flow.attempt = .failed ∧
        (scriptedAfter [.submitPhone "+31612345678"] {}).flow.attempt = .sent ∧
        Alike Eq none none ((perform (.scripted .standard) (.submitCode "2")).run refusedOnce)
          ((perform (.scripted .standard) (.submitCode "2")).run
            (scriptedAfter [.submitPhone "+31612345678"] {}))) := by
  have hanswers := AnswersAlike.refl (.scripted .standard)
  have hunsent := reached_scriptedAfter [.submitPhone "+31612345678"]
    { sends := [.error (.rejected .internal)] }
  have hrefused := reached_scriptedAfter [.submitPhone "+31612345678", .submitCode "1"]
    { verifies := [.error (.rejected .internal)] }
  have hnew := reached_scriptedAfter [] {}
  have hsent := reached_scriptedAfter [.submitPhone "+31612345678"] {}
  refine ⟨?_, ?_, ?_⟩
  · obtain ⟨hlink, -, -⟩ := alike_of_reached hanswers hunsent hrefused rfl
    exact hlink _ (by decide +kernel)
  · obtain ⟨-, hnumber, -⟩ := alike_of_reached hanswers hunsent hnew rfl
    have hstep : unsentOnce.flow.step = .phone := by decide +kernel
    exact ⟨hstep, rfl, hnumber hstep rfl _ ⟨"+31612345678", some "NL"⟩ (by decide +kernel)⟩
  · obtain ⟨-, -, hcode⟩ := alike_of_reached hanswers hrefused hsent rfl
    have hsame : Alike Eq none none
        ((perform (.scripted .standard) (.submitCode "2")).run refusedOnce)
        ((perform (.scripted .standard) (.submitCode "2")).run
          (scriptedAfter [.submitPhone "+31612345678"] {})) :=
      hcode (by decide +kernel) (by decide +kernel) (by decide +kernel) (by decide +kernel) _
        (by decide +kernel)
    exact ⟨by decide +kernel, by decide +kernel, hsame⟩

end PhoneVerification.Flow
