import PhoneVerification.Proofs.Flow.Refusal
import PhoneVerification.Proofs.Flow.UpToDate

/-!
# Starting over

A flow that starts over is a new flow before the same observer: whatever was done to it, nothing but
the observer is left. From then on every operation does what it does to a flow that was never used,
if the services answer alike (`laterAlike`). Going back keeps the number and the text of its form as
well, and is otherwise the same.
-/

namespace PhoneVerification.Flow

variable {σ τ : Type}

/-- The flow with the number of another one, and with the text of its form. -/
def withNumberOf (f g : Flow) : Flow :=
  { f with phone := g.phone, phoneForm.input := g.phoneForm.input }

/-- Starting over leaves nothing of a flow but its configuration and its observer. -/
theorem restarted_eq (f : Flow) : f.restarted = (start f.config).watchedBy f.observer :=
  rfl

/-- Going back to the number leaves the number and the text of its form besides. -/
theorem wentTo_phone_eq (f : Flow) :
    f.wentTo .phone = ((start f.config).withNumberOf f).watchedBy f.observer :=
  rfl

section Watched

variable {f : Flow} {o p : Option String} {a b : Plan}

theorem same_stepPlan (step : Step) (action : String) (h : Plan.Same f.observer p a b) :
    Plan.Same f.observer p (f.stepPlan step action a)
      ((f.watchedBy p).stepPlan step action b) := by
  have hstep : (f.watchedBy p).step = f.step := rfl
  unfold stepPlan
  rw [hstep]
  split
  · exact h
  · exact .ends _ rfl rfl

theorem same_numberPlan (action : String) {next next' : PhoneNumber → Plan}
    (h : ∀ phone, Plan.Same f.observer p (next phone) (next' phone)) :
    Plan.Same f.observer p (f.numberPlan action next)
      ((f.watchedBy p).numberPlan action next') := by
  have hphone : (f.watchedBy p).phone = f.phone := rfl
  unfold numberPlan
  rw [hphone]
  split
  · exact h _
  · exact .ends _ rfl rfl

theorem same_codePlan (reply : Reply) (phone : PhoneNumber) (raw : String) :
    Plan.Same f.observer p (f.codePlan reply phone raw)
      ((f.watchedBy p).codePlan reply phone raw) := by
  unfold codePlan
  split
  · exact same_recordStatus rfl (same_showing reply rfl rfl)
  · exact same_verifyPlan rfl rfl reply phone raw

theorem same_backPlan (action : BackAction) :
    Plan.Same f.observer p (f.backPlan action) ((f.watchedBy p).backPlan action) := by
  cases action with
  | navigate step =>
      have hobserver : (f.wentTo step).observer = f.observer := by
        unfold wentTo
        split
        · rfl
        · rfl
      have hwent : (f.watchedBy p).wentTo step = (f.wentTo step).watchedBy p := by
        unfold wentTo
        split
        · rfl
        · rfl
      simp only [backPlan, hwent]
      exact same_recordStep rfl (same_showing _ hobserver rfl)
  | history => exact .ends _ rfl rfl
  | hidden => exact .ends _ rfl rfl

/-- No plan depends on the observer, unless it registers one. -/
theorem same_plan (f : Flow) (p : Option String) {op : Operation} (hop : op.observer? = none) :
    Plan.Same f.observer p (f.plan op) ((f.watchedBy p).plan op) := by
  cases op with
  | submitPhone raw =>
      refine same_stepPlan _ _ (.asks _ fun answer => ?_)
      cases answer with
      | ok phone => exact same_acceptPlan (f := f.numbered raw phone) rfl rfl phone
      | error rejection => exact .notes _ (same_recordStatus rfl (same_showing .done rfl rfl))
  | confirm =>
      exact same_stepPlan _ _ (same_numberPlan _ fun phone => same_sendPlan rfl rfl phone)
  | submitCode raw =>
      exact same_stepPlan _ _ (same_numberPlan _ fun phone => same_codePlan .done phone raw)
  | openLink text =>
      simp only [plan]
      cases VerifyLink.parse? text with
      | none => exact .notes _ (.ends _ rfl rfl)
      | some link =>
          exact .notes _ (same_recordStep rfl
            (same_verifyPlan (f := f.resumed link) rfl rfl _ _ _))
  | back => exact same_backPlan _
  | restart => exact same_recordStep rfl (same_showing .done rfl rfl)
  | observe name => cases hop

end Watched

/-- Worlds with the same flow before two observers, and with services in `R`. -/
structure WorldsAlike (R : σ → τ → Prop) (o p : Option String) (x : World σ) (y : World τ) :
    Prop where
  observer : x.flow.observer = o
  flow : y.flow = x.flow.watchedBy p
  services : R x.services y.services

section Alike

variable {R : σ → τ → Prop} {s : Services σ} {t : Services τ} {o p : Option String} {x : World σ}
  {y : World τ}

theorem Alike.worlds {x : Outcome Event (World σ) Reply} {y : Outcome Event (World τ) Reply}
    (h : Alike R o p x y) : WorldsAlike R o p x.world y.world :=
  ⟨h.observer, h.flow, h.services⟩

/-- An operation does the same in worlds that are alike. -/
theorem alike_perform (hanswers : AnswersAlike R s t) (h : WorldsAlike R o p x y)
    (op : Operation) :
    Alike R (op.observer?.or o) (op.observer?.or p) ((perform s op).run x)
      ((perform t op).run y) := by
  obtain ⟨f, v⟩ := x
  obtain ⟨g, u⟩ := y
  obtain ⟨rfl, rfl, hR⟩ := h
  cases hop : op.observer? with
  | none =>
      rw [perform_eq_follow, perform_eq_follow]
      exact (same_plan f p hop).follow hanswers hR
  | some name =>
      cases op with
      | observe other =>
          obtain rfl := Option.some.inj hop
          exact ⟨rfl, ⟨[], rfl, rfl⟩, rfl, rfl, hR⟩
      | _ => cases hop

/-- Worlds that are alike stay so, before the observer that is registered last. -/
theorem worldsAlike_worldAfter (hanswers : AnswersAlike R s t) (h : WorldsAlike R o p x y)
    (ops : List Operation) :
    WorldsAlike R ((lastObserver ops).or o) ((lastObserver ops).or p) (worldAfter s ops x)
      (worldAfter t ops y) := by
  induction ops using List.reverseRecOn with
  | nil => exact h
  | append_singleton ops op ih =>
      rw [worldAfter_append, worldAfter_append, lastObserver_append, Option.or_assoc,
        Option.or_assoc]
      exact (alike_perform hanswers ih op).worlds

/-- Every operation of every later run does in one world what it does in the other. -/
def LaterAlike (R : σ → τ → Prop) (s : Services σ) (t : Services τ) (x : World σ)
    (y : World τ) : Prop :=
  ∀ ops op, Alike R ((lastObserver (ops ++ [op])).or x.flow.observer)
    ((lastObserver (ops ++ [op])).or y.flow.observer)
    ((perform s op).run (worldAfter s ops x)) ((perform t op).run (worldAfter t ops y))

theorem laterAlike (hanswers : AnswersAlike R s t) (h : WorldsAlike R o p x y) :
    LaterAlike R s t x y := by
  obtain ⟨rfl, hflow, hR⟩ := h
  have hobserver : y.flow.observer = p := congrArg Flow.observer hflow
  intro ops op
  rw [lastObserver_append, Option.or_assoc, Option.or_assoc, hobserver]
  exact alike_perform hanswers (worldsAlike_worldAfter hanswers ⟨rfl, hflow, hR⟩ ops) op

end Alike

/-- An operation leaves the flow `g` before the observer there was and asks nothing, and every later
run is like a run of that flow before any observer, with any services that answer alike. -/
structure BeginsAnew (s : Services σ) (op : Operation) (w : World σ) (g : Flow) : Prop where
  world : ((perform s op).run w).world = ⟨g.watchedBy w.flow.observer, w.services⟩
  unasked : Event.exchanges ((perform s op).run w).events = []
  later : ∀ (τ : Type) (t : Services τ) (R : σ → τ → Prop) (u : τ) (p : Option String),
    AnswersAlike R s t → R w.services u →
      LaterAlike R s t ((perform s op).run w).world ⟨g.watchedBy p, u⟩

section Reached

variable {s : Services σ} {c : Config} {asked : List Exchange} {w : World σ} {op : Operation}
  {f g : Flow} {reply : Reply}

/-- An operation that only shows the flow it leaves begins anew with that flow. -/
theorem beginsAnew_of_plan (hplan : w.flow.plan op = f.recordStep (f.showing reply))
    (hf : f = g.watchedBy w.flow.observer) : BeginsAnew s op w g := by
  have hrun := perform_eq_follow s op w
  rw [hplan, follow_recordStep, follow_showing] at hrun
  have hworld : ((perform s op).run w).world = ⟨g.watchedBy w.flow.observer, w.services⟩ := by
    rw [hrun, hf]
  refine ⟨hworld, ?_, ?_⟩
  · rw [hrun]
    simp
  · intro τ t R u p hanswers hR
    rw [hworld]
    exact laterAlike (p := p) hanswers ⟨rfl, rfl, hR⟩

/-- From the first and from the last step there is no way back within a flow. -/
theorem Consistent.plan_back (h : Consistent c asked f)
    (hstep : f.step = .phone ∨ f.step = .done) :
    f.plan .back = .ends (.wentBack f.controls.back) f := by
  have hback : f.controls.back = .history ∨ f.controls.back = .hidden := by
    rw [h.controls]
    rcases hstep with hstep | hstep
    · rw [hstep]
      cases hhistory : c.historyAvailable with
      | true => simp [Controls.of, Controls.backOf, hhistory]
      | false => simp [Controls.of, Controls.backOf, hhistory]
    · rw [hstep]
      exact .inr rfl
  rcases hback with hback | hback
  · rw [plan, hback, backPlan]
  · rw [plan, hback, backPlan]

/-- However a flow was reached, starting over makes it a new one but for the observer. Going back
from the confirmation or from the code does the same but for the number and the text of its form,
and from the other steps it does nothing at all. -/
theorem begins_anew_of_reached (h : Reached s c w) :
    BeginsAnew s .restart w (start c) ∧
    (w.flow.step = .confirm ∨ w.flow.step = .token →
      BeginsAnew s .back w ((start c).withNumberOf w.flow)) ∧
    (w.flow.step = .phone ∨ w.flow.step = .done →
      (perform s .back).run w = ⟨.wentBack w.flow.controls.back, [], w⟩) := by
  obtain ⟨asked, hf⟩ := h.consistent
  refine ⟨?_, ?_, ?_⟩
  · refine beginsAnew_of_plan rfl ?_
    rw [restarted_eq, hf.config]
  · intro hstep
    have hplan : w.flow.plan .back =
        (w.flow.wentTo .phone).recordStep
          ((w.flow.wentTo .phone).showing (.wentBack (.navigate .phone))) := by
      rw [plan, hf.back_eq_navigate hstep, backPlan]
    refine beginsAnew_of_plan hplan ?_
    rw [wentTo_phone_eq, hf.config]
  · intro hstep
    rw [perform_eq_follow, hf.plan_back hstep]
    rfl

/-- Once the credential was issued a flow starts over like a new one with another observer, and
cannot go back. From a code that was refused it goes back to its number. -/
theorem begins_anew_once_issued :
    (Reached (.scripted .standard) { confirmStep := false } issuedOnce ∧
      issuedOnce.flow.step = .done ∧
      BeginsAnew (.scripted .standard) .restart issuedOnce (start { confirmStep := false }) ∧
      LaterAlike Eq (.scripted .standard) (.scripted .standard)
        ((perform (.scripted .standard) .restart).run issuedOnce).world
        ⟨(start { confirmStep := false }).watchedBy (some "page"), issuedOnce.services⟩ ∧
      (perform (.scripted .standard) .back).run issuedOnce =
        ⟨.wentBack issuedOnce.flow.controls.back, [], issuedOnce⟩) ∧
    (Reached (.scripted .standard) { confirmStep := false } refusedOnce ∧
      refusedOnce.flow.step = .token ∧ refusedOnce.flow.codeForm = ⟨"1", false⟩ ∧
      BeginsAnew (.scripted .standard) .back refusedOnce
        ((start { confirmStep := false }).withNumberOf refusedOnce.flow)) := by
  have hissued : Reached (.scripted .standard) { confirmStep := false } issuedOnce :=
    reached_scriptedAfter _ _
  have hrefused : Reached (.scripted .standard) { confirmStep := false } refusedOnce :=
    reached_scriptedAfter _ _
  have hdone : issuedOnce.flow.step = .done := by decide +kernel
  have htoken : refusedOnce.flow.step = .token := by decide +kernel
  obtain ⟨hrestart, -, hstay⟩ := begins_anew_of_reached hissued
  obtain ⟨-, hback, -⟩ := begins_anew_of_reached hrefused
  have hlater := hrestart.later _ _ Eq _ (some "page") (AnswersAlike.refl _) rfl
  exact ⟨⟨hissued, hdone, hrestart, hlater, hstay (.inr hdone)⟩, hrefused, htoken,
    by decide +kernel, hback (.inr htoken)⟩

end Reached

end PhoneVerification.Flow
