import PhoneVerification.Proofs.Flow.History
import Mathlib.Data.List.DropRight

/-!
# A flow is consistent after every operation

Controls, attempt and forms are set by different operations, and none of them is derived from the
step. `Consistent` says what they are at each step. The attempt at the code is told from the
questions asked so far: it has failed as soon as a code was tried since the last one was sent.
-/

namespace PhoneVerification

namespace Exchange

/-- Whether a code was sent. -/
def isSent : Exchange → Bool
  | .send _ _ (.ok _) => true
  | .send _ _ (.error _) | .validate _ _ | .verify _ _ _ | .issue _ _ _ => false

/-- Whether a code was tried. -/
def isVerify : Exchange → Bool
  | .verify _ _ _ => true
  | .validate _ _ | .send _ _ _ | .issue _ _ _ => false

end Exchange

namespace Flow

variable {σ : Type}

/-- What was asked since a code was sent for the last time, or at all if none was sent. -/
def sinceSent (asked : List Exchange) : List Exchange :=
  asked.rtakeWhile fun x => !x.isSent

/-- The attempt at the code: failed if a code was tried since the last one was sent, or if none was
ever sent. -/
def attemptAtCode (asked : List Exchange) : Attempt :=
  if (sinceSent asked).any Exchange.isVerify || !asked.any Exchange.isSent then .failed else .sent

/-- The attempt at each step. -/
def attemptAt (asked : List Exchange) : Step → Attempt
  | .phone | .confirm => .notSent
  | .token => attemptAtCode asked
  | .done => .verified

theorem attemptAtCode_append_sent (asked : List Exchange) {x : Exchange} (h : x.isSent = true) :
    attemptAtCode (asked ++ [x]) = .sent := by
  simp [attemptAtCode, sinceSent, h]

theorem attemptAtCode_append_verify (asked : List Exchange) {x : Exchange}
    (hsent : x.isSent = false) (hverify : x.isVerify = true) :
    attemptAtCode (asked ++ [x]) = .failed := by
  simp [attemptAtCode, sinceSent, hsent, hverify]

/-- What holds of a flow after the questions asked so far. -/
structure Consistent (c : Config) (asked : List Exchange) (f : Flow) : Prop where
  config : f.config = c
  controls : f.controls = Controls.of c f.step
  phone : f.step ≠ .phone → f.phone.isSome = true
  attempt : f.attempt = attemptAt asked f.step
  phoneDisabled : f.phoneForm.disabled = true ↔ f.step = .token ∨ f.step = .done
  codeDisabled : f.codeForm.disabled = true ↔ f.step = .done
  codeInput : f.step = .phone ∨ f.step = .confirm → f.codeForm.input = ""

namespace Consistent

variable {c : Config} {asked xs : List Exchange} {f g : Flow} {phone : PhoneNumber} {raw : String}

theorem start (c : Config) : Consistent c [] (start c) where
  config := rfl
  controls := rfl
  phone h := absurd rfl h
  attempt := rfl
  phoneDisabled := by simp [Flow.start]
  codeDisabled := by simp [Flow.start]
  codeInput _ := rfl

/-- Before a code is sent the form of the code is as new. -/
theorem codeForm_eq (h : Consistent c asked f) (hstep : f.step = .phone ∨ f.step = .confirm) :
    f.codeForm = {} := by
  have hinput := h.codeInput hstep
  have hdisabled : f.codeForm.disabled = false := by
    rw [← Bool.not_eq_true, h.codeDisabled]
    rcases hstep with hstep | hstep
    · simp [hstep]
    · simp [hstep]
  cases hcode : f.codeForm with
  | mk input disabled =>
      rw [hcode] at hinput hdisabled
      simp only at hinput hdisabled
      rw [hinput, hdisabled]

/-- Until a code is sent the form of the phone number is open. -/
theorem phoneForm_enabled (h : Consistent c asked f)
    (hstep : f.step = .phone ∨ f.step = .confirm) : f.phoneForm.disabled = false := by
  rw [← Bool.not_eq_true, h.phoneDisabled]
  rcases hstep with hstep | hstep
  · simp [hstep]
  · simp [hstep]

/-- What is consistent until a code is sent, whatever was asked before. -/
theorem before_code (asked : List Exchange) (hconfig : f.config = c)
    (hstep : f.step = .phone ∨ f.step = .confirm) (hcontrols : f.controls = Controls.of c f.step)
    (hphone : f.step ≠ .phone → f.phone.isSome = true) (hattempt : f.attempt = .notSent)
    (hdisabled : f.phoneForm.disabled = false) (hcode : f.codeForm = {}) :
    Consistent c asked f where
  config := hconfig
  controls := hcontrols
  phone := hphone
  attempt := by
    rcases hstep with hstep | hstep
    · rw [hstep, hattempt, attemptAt]
    · rw [hstep, hattempt, attemptAt]
  phoneDisabled := by
    rcases hstep with hstep | hstep
    · simp [hstep, hdisabled]
    · simp [hstep, hdisabled]
  codeDisabled := by
    rcases hstep with hstep | hstep
    · simp [hstep, hcode]
    · simp [hstep, hcode]
  codeInput _ := by rw [hcode]

/-- Whatever the form of the phone number was, sending a code leaves a consistent flow. -/
theorem sends (asked : List Exchange) (hconfig : f.config = c) (hphone : f.phone.isSome = true)
    (hattempt : f.attempt = .notSent) (hcode : f.codeForm = {}) (h : Sends f phone xs g) :
    Consistent c (asked ++ xs) g := by
  subst hconfig
  cases h with
  | sent dispatch =>
      exact {
        config := rfl
        controls := rfl
        phone := fun _ => hphone
        attempt := (attemptAtCode_append_sent asked rfl).symm
        phoneDisabled := by simp [sent, sending, announcing, entering]
        codeDisabled := by simp [sent, entering]
        codeInput := by simp [sent, entering] }
  | unsent failure =>
      exact before_code _ rfl (.inl rfl) rfl (absurd rfl) hattempt rfl hcode

/-- Whatever the form of the code was, exchanging a code leaves a consistent flow. -/
theorem verifies (asked : List Exchange) (hconfig : f.config = c) (hstep : f.step = .token)
    (hcontrols : f.controls = Controls.of c .token) (hphone : f.phone.isSome = true)
    (hdisabled : f.phoneForm.disabled = true) (h : Verifies f phone raw xs g) :
    Consistent c (asked ++ xs) g := by
  subst hconfig
  cases h with
  | refused failure =>
      exact {
        config := rfl
        controls := by simp [unverified, verifying, announcing, hcontrols, hstep]
        phone := fun _ => hphone
        attempt := by
          have hfailed := attemptAtCode_append_verify asked
            (x := .verify phone (.normalize raw) (.error failure)) rfl rfl
          simp [unverified, verifying, announcing, hstep, attemptAt, hfailed]
        phoneDisabled := by simp [unverified, verifying, announcing, hstep, hdisabled]
        codeDisabled := by simp [unverified, verifying, announcing, hstep]
        codeInput := by simp [unverified, verifying, announcing, hstep] }
  | issued token outcome =>
      exact {
        config := rfl
        controls := rfl
        phone := fun _ => hphone
        attempt := rfl
        phoneDisabled := by simp [concluded, verified, verifying, announcing, entering, hdisabled]
        codeDisabled := by simp [concluded, verified, verifying, announcing, entering]
        codeInput := by simp [concluded, verified, verifying, announcing, entering] }

/-- The back control leads to the phone number, if it leads anywhere. -/
theorem eq_phone_of_back (h : Consistent c asked f) {step : Step}
    (hback : f.controls.back = .navigate step) : step = .phone := by
  rw [h.controls, Controls.of] at hback
  cases hstep : f.step with
  | phone =>
      cases hhistory : c.historyAvailable with
      | true => simp [Controls.backOf, hstep, hhistory] at hback
      | false => simp [Controls.backOf, hstep, hhistory] at hback
  | confirm =>
      simp only [Controls.backOf, hstep, BackAction.navigate.injEq] at hback
      exact hback.symm
  | token =>
      simp only [Controls.backOf, hstep, BackAction.navigate.injEq] at hback
      exact hback.symm
  | done => simp [Controls.backOf, hstep] at hback

/-- At the confirmation and at the code one can go back to the phone number. -/
theorem back_eq_navigate (h : Consistent c asked f) (hstep : f.step = .confirm ∨ f.step = .token) :
    f.controls.back = .navigate .phone := by
  rw [h.controls]
  rcases hstep with hstep | hstep
  · rw [hstep]; rfl
  · rw [hstep]; rfl

/-- Every turn keeps a flow consistent. -/
theorem path {op : Operation} {reply : Reply} (h : Consistent c asked f)
    (hpath : Path f op xs reply g) : Consistent c (asked ++ xs) g := by
  cases hpath with
  | outOfStep hbound hstep => rwa [List.append_nil]
  | numberless action hbound hstep hne hphone => rwa [List.append_nil]
  | numberWarned hstep raw rejection =>
      have hattempt := h.attempt
      rw [hstep] at hattempt
      exact before_code _ h.config (.inl hstep) h.controls (absurd hstep) hattempt
        (h.phoneForm_enabled (.inl hstep)) (h.codeForm_eq (.inl hstep))
  | numberKept hstep hconfirm raw phone =>
      exact before_code _ h.config (.inr rfl) (h.config ▸ rfl) (fun _ => rfl) rfl
        (h.phoneForm_enabled (.inl hstep)) (h.codeForm_eq (.inl hstep))
  | numberSent hstep hconfirm raw phone hsends =>
      rw [← List.singleton_append, ← List.append_assoc]
      exact sends (f := f.numbered raw phone) _ h.config rfl rfl (h.codeForm_eq (.inl hstep)) hsends
  | confirmed hstep hphone hsends =>
      have hattempt := h.attempt
      rw [hstep] at hattempt
      exact sends asked h.config (by simp [hphone]) hattempt (h.codeForm_eq (.inr hstep)) hsends
  | blankWarned hstep hphone hraw =>
      rw [List.append_nil]
      exact ⟨h.config, h.controls, h.phone, h.attempt, h.phoneDisabled, h.codeDisabled,
        fun hbefore => absurd hbefore (by simp [blankWarned, announcing, hstep])⟩
  | codeTried hstep hphone hraw hverifies =>
      have hcontrols := h.controls
      rw [hstep] at hcontrols
      exact verifies asked h.config hstep hcontrols (by simp [hphone])
        (h.phoneDisabled.mpr (.inl hstep)) hverifies
  | linkIgnored hlink => rwa [List.append_nil]
  | @linkFollowed _ _ _ link hlink hverifies =>
      have hconfig : (f.resumed link).config = c := h.config
      exact verifies asked hconfig rfl (hconfig ▸ rfl) rfl rfl hverifies
  | wentBack hback =>
      obtain rfl := h.eq_phone_of_back hback
      exact before_code _ h.config (.inl rfl) (h.config ▸ rfl) (absurd rfl) rfl rfl rfl
  | stayed hback => rwa [List.append_nil]
  | restarted => exact before_code _ h.config (.inl rfl) (h.config ▸ rfl) (absurd rfl) rfl rfl rfl
  | observed name =>
      rw [List.append_nil]
      exact ⟨h.config, h.controls, h.phone, h.attempt, h.phoneDisabled, h.codeDisabled,
        h.codeInput⟩

end Consistent

/-- What holds of a new flow, and is kept by the turns of consistent flows, holds of every run. -/
theorem consistent_induction {P : List Turn → Flow → Prop} {c : Config} (hstart : P [] (start c))
    (hturn : ∀ ts f op xs reply g, Consistent c (ts.flatMap Turn.asked) f → P ts f →
      Path f op xs reply g → P (ts ++ [⟨op, f, xs, reply, g⟩]) g)
    (s : Services σ) (v : σ) (ops : List Operation) :
    Consistent c ((turns s ops (opened c v)).flatMap Turn.asked)
        (worldAfter s ops (opened c v)).flow ∧
      P (turns s ops (opened c v)) (worldAfter s ops (opened c v)).flow := by
  refine turns_induction (P := fun ts f => Consistent c (ts.flatMap Turn.asked) f ∧ P ts f)
    ⟨Consistent.start c, hstart⟩ ?_ s v ops
  intro ts f op xs reply g h hpath
  refine ⟨?_, hturn ts f op xs reply g h.1 h.2 hpath⟩
  rw [List.flatMap_append]
  simpa using h.1.path hpath

/-- The turns of a run leave a flow that is consistent with what they asked. -/
theorem consistent_worldAfter (s : Services σ) (c : Config) (v : σ) (ops : List Operation) :
    Consistent c ((turns s ops (opened c v)).flatMap Turn.asked)
      (worldAfter s ops (opened c v)).flow := by
  have h := consistent_induction (P := fun _ _ => True) (c := c) trivial
    (fun _ _ _ _ _ _ _ _ _ => trivial) s v ops
  exact h.1

/-- Every turn of a run takes a path from a consistent flow. -/
theorem path_of_mem_turns {s : Services σ} {c : Config} {v : σ} {ops : List Operation} {t : Turn}
    (ht : t ∈ turns s ops (opened c v)) :
    (∃ asked, Consistent c asked t.before) ∧
      Path t.before t.operation t.asked t.reply t.after := by
  have h := consistent_induction (c := c)
    (P := fun ts _ => ∀ t ∈ ts, (∃ asked, Consistent c asked t.before) ∧
      Path t.before t.operation t.asked t.reply t.after)
    (by simp) ?_ s v ops
  · exact h.2 t ht
  · intro ts f op xs reply g hf hall hpath t ht
    rcases List.mem_append.mp ht with ht | ht
    · exact hall t ht
    · obtain rfl := List.mem_singleton.mp ht
      exact ⟨⟨_, hf⟩, hpath⟩

/-- After any operations, with any services, a flow is consistent. -/
theorem consistent_performAll (s : Services σ) (c : Config) (v : σ) (ops : List Operation) :
    Consistent c (Event.exchanges ((performAll s ops).run (opened c v)).events)
      ((performAll s ops).run (opened c v)).world.flow := by
  rw [← flatMap_asked_turns]
  exact consistent_worldAfter s c v ops

end Flow

end PhoneVerification
