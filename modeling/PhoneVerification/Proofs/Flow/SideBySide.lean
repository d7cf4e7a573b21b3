import PhoneVerification.Proofs.Flow.History
import PhoneVerification.Proofs.Flow.Leeway

/-!
# Runs side by side

A `Comparison` is a leeway together with what is seen of a run, such that nothing of the leeway is
seen. Two runs of operations within it look the same, if the services of each stay within it too
(`coupled_performAll`): the plans of the operations are gone through once, for all comparisons.
-/

namespace PhoneVerification

/-- What is seen of two runs, and by how much they may differ without its being seen. -/
structure Comparison (δ : Type) extends Leeway where
  see : Event → List δ
  see_view {f g : Flow} : Flow.Within toLeeway f g → ∀ name,
    see (.view name f.view) = see (.view name g.view)
  see_outcome {o o' : IssuanceOutcome} : outcomes o o' →
    see (.effect (.log (.own .info ("issuance ended: " ++ o.logText)))) =
      see (.effect (.log (.own .info ("issuance ended: " ++ o'.logText))))
  see_exchange {α : Type} {q q' : Question α} {x y : α} : Question.Within toLeeway q q' →
    Question.AnswersWithin toLeeway q x y →
    see (.exchange (q.exchange x)) = see (.exchange (q'.exchange y))

variable {δ σ τ : Type} {K : Comparison δ} {R : σ → τ → Prop} {s : Services σ} {t : Services τ}
  {o : Option String}

/-- What is seen of an effect of the services. -/
def Comparison.seeEffect (K : Comparison δ) (e : Effect) : List δ :=
  K.see (.effect e)

/-- Services whose answers stay within a comparison, and which look the same in it. -/
def Services.Coupled (K : Comparison δ) (R : σ → τ → Prop) (s : Services σ) (t : Services τ) : Prop :=
  ∀ {α : Type} (q q' : Question α), q.Within K.toLeeway q' →
    Action.Coupled K.seeEffect R (q.AnswersWithin K.toLeeway) (s.answer q) (t.answer q')

/-- Plans that look the same and stay within a comparison. -/
inductive Plan.Coupled (K : Comparison δ) : Plan → Plan → Prop
  | ends (reply : Reply) {f g : Flow} (h : f.Within K.toLeeway g) :
      Coupled K (.ends reply f) (.ends reply g)
  | notes {record record' : Log.Record}
      (hrecord : K.see (.effect (.log record)) = K.see (.effect (.log record'))) {a b : Plan}
      (h : Coupled K a b) : Coupled K (.notes record a) (.notes record' b)
  | shows {f g : Flow} (hflow : f.Within K.toLeeway g) {a b : Plan} (h : Coupled K a b) :
      Coupled K (.shows f.view a) (.shows g.view b)
  | asks {α : Type} {q q' : Question α} (hquestion : q.Within K.toLeeway q') {a b : α → Plan}
      (h : ∀ x y, q.AnswersWithin K.toLeeway x y → Coupled K (a x) (b y)) :
      Coupled K (.asks q a) (.asks q' b)

namespace Flow

/-- Worlds with flows within a comparison, and with services in `R`. -/
def WorldsIn (K : Comparison δ) (R : σ → τ → Prop) (w : World σ) (w' : World τ) : Prop :=
  w.flow.Within K.toLeeway w'.flow ∧ R w.services w'.services

theorem Within.see_shownTo {f g : Flow} (h : f.Within K.toLeeway g) (o : Option String) :
    (Plan.shownTo o f.view).flatMap K.see = (Plan.shownTo o g.view).flatMap K.see := by
  cases o with
  | none => rfl
  | some name => simp [Plan.shownTo, K.see_view h]

end Flow

/-- Coupled plans, followed before the same observer with coupled services. -/
theorem Plan.Coupled.follow {a b : Plan} (h : Plan.Coupled K a b) (hs : Services.Coupled K R s t)
    {v : σ} {u : τ} (hR : R v u) :
    (a.follow s o v).value = (b.follow t o u).value ∧
      Flow.WorldsIn K R (a.follow s o v).world (b.follow t o u).world ∧
      (a.follow s o v).events.flatMap K.see = (b.follow t o u).events.flatMap K.see := by
  induction h generalizing v u with
  | ends reply hflow => exact ⟨rfl, ⟨hflow, hR⟩, rfl⟩
  | notes hrecord h ih =>
      obtain ⟨hreply, hworlds, hevents⟩ := ih hR
      refine ⟨hreply, hworlds, ?_⟩
      simp only [Plan.follow, List.flatMap_cons, hrecord, hevents]
  | shows hflow h ih =>
      obtain ⟨hreply, hworlds, hevents⟩ := ih hR
      refine ⟨hreply, hworlds, ?_⟩
      simp only [Plan.follow, List.flatMap_append, hflow.see_shownTo, hevents]
  | @asks α q q' hquestion a b h ih =>
      obtain ⟨hvalue, hworld, heffects⟩ := hs q q' hquestion v u hR
      obtain ⟨hreply, hworlds, hevents⟩ := ih _ _ hvalue hworld
      refine ⟨hreply, hworlds, ?_⟩
      have heffects' : ((s.answer q).run v).events.flatMap (fun e => K.see (.effect e)) =
          ((t.answer q').run u).events.flatMap (fun e => K.see (.effect e)) := heffects
      simp only [Plan.follow, List.flatMap_append, List.flatMap_cons, List.flatMap_map, heffects',
        K.see_exchange hquestion hvalue, hevents]

namespace Flow.Within

variable {f g : Flow} {a b : Plan} {p p' : PhoneNumber} {raw raw' : String}

theorem recordStep (h : f.Within K.toLeeway g) (hnext : Plan.Coupled K a b) :
    Plan.Coupled K (f.recordStep a) (g.recordStep b) := by
  unfold Flow.recordStep
  rw [h.step]
  exact .notes rfl hnext

theorem recordStatus (h : f.Within K.toLeeway g) (hnext : Plan.Coupled K a b) :
    Plan.Coupled K (f.recordStatus a) (g.recordStatus b) := by
  unfold Flow.recordStatus
  rw [h.status]
  split
  · exact .notes rfl hnext
  · exact hnext

theorem showing (h : f.Within K.toLeeway g) (reply : Reply) :
    Plan.Coupled K (f.showing reply) (g.showing reply) :=
  .shows h (.ends reply h)

/-- To send a code to numbers within a leeway. The answer is the same on both sides. -/
theorem sendPlan (h : f.Within K.toLeeway g) (hphone : K.numbers p p') :
    Plan.Coupled K (f.sendPlan p) (g.sendPlan p') := by
  unfold Flow.sendPlan
  rw [h.config, h.config']
  refine h.sending.recordStatus (.shows h.sending (.asks (.send hphone) fun x y hxy => ?_))
  obtain rfl : x = y := hxy
  cases x with
  | ok dispatch =>
      have hsent := h.sending.sent dispatch
      exact hsent.recordStatus (hsent.recordStep (hsent.showing .done))
  | error failure =>
      have hunsent := h.sending.unsent failure
      exact hunsent.recordStep (hunsent.recordStatus (hunsent.showing .done))

/-- To exchange codes within a leeway. Failures are the same on both sides; tokens are handed on
without being looked at, and of an outcome only the status is used. -/
theorem verifyPlan (h : f.Within K.toLeeway g) (reply : Reply) (hphone : K.numbers p p')
    (hraw : K.codes raw raw') :
    Plan.Coupled K (f.verifyPlan reply p raw) (g.verifyPlan reply p' raw') := by
  have hverifying := h.verifying hraw
  unfold Flow.verifyPlan issuanceOptions
  rw [h.config, h.config']
  refine hverifying.recordStatus (.shows hverifying (.asks (.verify hphone hraw) fun x y hxy => ?_))
  cases hxy with
  | error failure =>
      have hunverified := hverifying.unverified failure
      exact hunverified.recordStatus (hunverified.showing reply)
  | ok htoken =>
      have hverified := hverifying.verified
      refine hverified.recordStatus (hverified.recordStep (.shows hverified ?_))
      refine .asks (.issue htoken) fun outcome outcome' houtcome => ?_
      have hconcluded := hverified.concluded houtcome
      exact .notes (K.see_outcome houtcome) (hconcluded.recordStatus (hconcluded.showing reply))

theorem codePlan (h : f.Within K.toLeeway g) (reply : Reply) (hphone : K.numbers p p')
    (hraw : K.codes raw raw') :
    Plan.Coupled K (f.codePlan reply p raw) (g.codePlan reply p' raw') := by
  unfold Flow.codePlan
  rw [K.isBlankText_of_codes hraw]
  split
  · exact (h.blankWarned hraw).recordStatus ((h.blankWarned hraw).showing reply)
  · exact h.verifyPlan reply hphone hraw

theorem stepPlan (h : f.Within K.toLeeway g) (step : Step) (action : String)
    (hnext : Plan.Coupled K a b) :
    Plan.Coupled K (f.stepPlan step action a) (g.stepPlan step action b) := by
  unfold Flow.stepPlan
  simp only [notAllowed, h.step]
  split
  · exact hnext
  · exact .ends _ h

theorem numberPlan (h : f.Within K.toLeeway g) (action : String) {next next' : PhoneNumber → Plan}
    (hnext : ∀ p p', K.numbers p p' → Plan.Coupled K (next p) (next' p')) :
    Plan.Coupled K (f.numberPlan action next) (g.numberPlan action next') := by
  have hphone := h.phone
  unfold Flow.numberPlan
  simp only [notAllowed, h.step]
  generalize f.phone = m at hphone ⊢
  generalize g.phone = m' at hphone ⊢
  cases hphone with
  | none => exact .ends _ h
  | some hphone => exact hnext _ _ hphone

theorem acceptPlan (h : f.Within K.toLeeway g) (hphone : K.numbers p p') :
    Plan.Coupled K (f.acceptPlan p) (g.acceptPlan p') := by
  unfold Flow.acceptPlan
  rw [h.config_eq]
  split
  · exact h.confirming.recordStep (h.confirming.showing .done)
  · exact h.sendPlan hphone

theorem backPlan (h : f.Within K.toLeeway g) (action : BackAction) :
    Plan.Coupled K (f.backPlan action) (g.backPlan action) := by
  cases action with
  | navigate step => exact (h.wentTo step).recordStep ((h.wentTo step).showing _)
  | history => exact .ends _ h
  | hidden => exact .ends _ h

/-- Operations within a leeway have coupled plans, from flows within it. -/
theorem plan (h : f.Within K.toLeeway g) {op op' : Operation} (hop : op.Within K.toLeeway op') :
    Plan.Coupled K (f.plan op) (g.plan op') := by
  cases hop with
  | submitPhone hraw =>
      refine h.stepPlan _ _ (.asks (.validate hraw) fun x y hxy => ?_)
      cases hxy with
      | ok hphone => exact (h.numbered hraw hphone).acceptPlan hphone
      | error rejection =>
          have hwarned := h.numberWarned hraw rejection
          exact .notes rfl (hwarned.recordStatus (hwarned.showing .done))
  | confirm => exact h.stepPlan _ _ (h.numberPlan _ fun _ _ hphone => h.sendPlan hphone)
  | submitCode hraw =>
      exact h.stepPlan _ _ (h.numberPlan _ fun _ _ hphone => h.codePlan .done hphone hraw)
  | linkIgnored hlink hlink' =>
      simp only [Flow.plan, hlink, hlink', linkPlan]
      exact .notes rfl (.ends _ h)
  | linkFollowed hlink hlink' hphone hcode =>
      simp only [Flow.plan, hlink, hlink', linkPlan]
      have hresumed := h.resumed hphone
      exact .notes rfl (hresumed.recordStep (hresumed.verifyPlan _ hphone hcode))
  | back =>
      simp only [Flow.plan, h.controls]
      exact h.backPlan _
  | restart => exact h.restarted.recordStep (h.restarted.showing .done)
  | observe name => exact .ends .done (h.observed name)

end Flow.Within

namespace Flow

theorem coupled_perform (hs : Services.Coupled K R s t) {op op' : Operation}
    (hop : op.Within K.toLeeway op') :
    Action.Coupled K.see (WorldsIn K R) Eq (perform s op) (perform t op') := by
  intro w w' hworlds
  have hfollow := (hworlds.1.plan hop).follow hs (o := w.flow.observer) hworlds.2
  rw [perform_eq_follow, perform_eq_follow, ← hworlds.1.observer]
  exact hfollow

/-- Runs within a comparison look the same, with the same replies, and stay within it. -/
theorem coupled_performAll (hs : Services.Coupled K R s t) {ops ops' : List Operation}
    (hops : List.Forall₂ (Operation.Within K.toLeeway) ops ops') :
    Action.Coupled K.see (WorldsIn K R) Eq (performAll s ops) (performAll t ops') := by
  induction hops with
  | nil => exact .pure rfl
  | cons hop hops ih =>
      exact (coupled_perform hs hop).bind_eq fun reply => ih.bind_eq fun replies => .pure rfl

end Flow

end PhoneVerification
