import PhoneVerification.Proofs.Flow.FreshAttempt

/-!
# Operations that do nothing

An operation is refused exactly outside of the step it is bound to. The number of the flow is asked
for as well, but at those steps a flow that was reached by operations has one, so that this second
refusal never occurs. Where an operation is refused, a link is not one of ours, or there is nowhere
to go back to, nothing is asked, nothing is shown, and the flow stays as it was.
-/

namespace PhoneVerification

/-- Whether an operation with this reply has done nothing. -/
def Reply.isIdle : Reply → Bool
  | refused _ | linkOpened false | wentBack .history | wentBack .hidden => true
  | done | linkOpened true | wentBack (.navigate _) => false

/-- Whether an event is a record in the log. -/
def Event.isRecord : Event → Bool
  | .effect (.log _) => true
  | .effect (.attempt _) | .effect (.presented _ _) | .exchange _ | .view _ _ => false

namespace Plan

variable {σ : Type}

/-- Nothing but records is left behind before a plan ends with the flow `f`. -/
def Idles (f : Flow) : Plan → Prop
  | ends _ flow => flow = f
  | notes _ next => next.Idles f
  | shows _ _ | asks _ _ => False

/-- A plan that idles asks nothing and shows nothing, whoever the services and the observer are. -/
theorem Idles.follow {p : Plan} {f : Flow} (h : p.Idles f) (s : Services σ)
    (observer : Option String) (v : σ) :
    (p.follow s observer v).world = ⟨f, v⟩ ∧
      ∀ e ∈ (p.follow s observer v).events, e.isRecord = true := by
  induction p with
  | ends reply flow =>
      obtain rfl : flow = f := h
      exact ⟨rfl, by simp [Plan.follow]⟩
  | notes record next ih =>
      obtain ⟨hworld, hevents⟩ := ih h
      refine ⟨hworld, fun e he => ?_⟩
      rcases List.mem_cons.mp he with rfl | he
      · rfl
      · exact hevents e he
  | shows view next ih => exact h.elim
  | asks question next ih => exact h.elim

end Plan

namespace Flow

variable {σ : Type} {c : Config} {asked xs : List Exchange} {f g : Flow} {op : Operation}
  {reply : Reply}

/-- Either nothing happens at all, or the reply tells that something has. -/
theorem idles_or_always_busy (f : Flow) (op : Operation) :
    (f.plan op).Idles f ∨ (f.plan op).Always fun _ reply _ => reply.isIdle = false := by
  cases op with
  | submitPhone raw =>
      simp only [plan, stepPlan]
      split
      · refine .inr fun answer => ?_
        cases answer with
        | ok phone =>
            simp only [acceptPlan]
            split
            · rfl
            · exact always_sendPlan fun _ _ _ => rfl
        | error rejection => rfl
      · exact .inl rfl
  | confirm =>
      simp only [plan, stepPlan, numberPlan]
      split
      · split
        · exact .inr (always_sendPlan fun _ _ _ => rfl)
        · exact .inl rfl
      · exact .inl rfl
  | submitCode raw =>
      simp only [plan, stepPlan, numberPlan]
      split
      · split
        · refine .inr ?_
          unfold codePlan
          split
          · rfl
          · exact always_verifyPlan fun _ _ _ => rfl
        · exact .inl rfl
      · exact .inl rfl
  | openLink text =>
      simp only [plan]
      cases VerifyLink.parse? text with
      | none => exact .inl rfl
      | some link =>
          refine .inr ?_
          simp only [linkPlan, Plan.Always, always_recordStep]
          exact always_verifyPlan fun _ _ _ => rfl
  | back =>
      simp only [plan]
      cases f.controls.back with
      | navigate step => exact .inr rfl
      | history => exact .inl rfl
      | hidden => exact .inl rfl
  | restart => exact .inr rfl
  | observe name => exact .inr rfl

/-- An operation whose reply is idle leaves everything as it was. -/
theorem world_eq_of_isIdle (s : Services σ) (op : Operation) (w : World σ)
    (h : ((perform s op).run w).value.isIdle = true) :
    ((perform s op).run w).world = w ∧
      ∀ e ∈ ((perform s op).run w).events, e.isRecord = true := by
  rw [perform_eq_follow] at h ⊢
  rcases idles_or_always_busy w.flow op with hidles | hbusy
  · exact hidles.follow s w.flow.observer w.services
  · have hfalse := hbusy.follow s w.flow.observer w.services
    rw [hfalse] at h
    cases h

/-- A turn of a consistent flow is refused exactly outside of the step it is bound to. -/
theorem Path.eq_refused_iff (h : Consistent c asked f) (hpath : Path f op xs reply g)
    (fault : Fault) :
    reply = .refused fault ↔ ∃ step action, boundTo? op = some (step, action) ∧ f.step ≠ step ∧
      fault = .invalidTransition action f.step := by
  cases hpath with
  | @outOfStep _ step action hbound hstep =>
      constructor
      · intro hreply
        exact ⟨step, action, hbound, hstep, (Reply.refused.inj hreply).symm⟩
      · rintro ⟨step', action', hbound', -, rfl⟩
        obtain ⟨rfl, rfl⟩ := Prod.mk.inj (Option.some.inj (hbound.symm.trans hbound'))
        rfl
  | numberless action hbound hstep hne hphone =>
      -- past the first step there is always a number
      have hsome := h.phone (hstep ▸ hne)
      simp [hphone] at hsome
  | numberWarned hstep raw rejection => simp [boundTo?, hstep]
  | numberKept hstep hconfirm raw phone => simp [boundTo?, hstep]
  | numberSent hstep hconfirm raw phone hsends => simp [boundTo?, hstep]
  | confirmed hstep hphone hsends => simp [boundTo?, hstep]
  | blankWarned hstep hphone hraw => simp [boundTo?, hstep]
  | codeTried hstep hphone hraw hverifies => simp [boundTo?, hstep]
  | _ => simp [boundTo?]

/-- Following a link is never refused: the reply tells whether it is a verification link. -/
theorem Path.eq_linkOpened {text : String} (hpath : Path f (.openLink text) xs reply g) :
    reply = .linkOpened (VerifyLink.parse? text).isSome := by
  cases hpath with
  | outOfStep hbound hstep => cases hbound
  | numberless action hbound hstep hne hphone => cases hbound
  | linkIgnored hlink => simp [hlink]
  | linkFollowed hlink hverifies => simp [hlink]

/-- In a flow that was reached by operations, an operation is refused exactly outside of the step it
is bound to, and following a link never is. What is refused, ignored or leads nowhere leaves the flow
and its services as they were, and nothing but records behind. -/
theorem refused_iff_of_reached {s : Services σ} {w : World σ} (h : Reached s c w)
    (op : Operation) :
    (∀ fault, ((perform s op).run w).value = .refused fault ↔
      ∃ step action, boundTo? op = some (step, action) ∧ w.flow.step ≠ step ∧
        fault = .invalidTransition action w.flow.step) ∧
    (∀ text, op = .openLink text →
      ((perform s op).run w).value = .linkOpened (VerifyLink.parse? text).isSome) ∧
    (((perform s op).run w).value.isIdle = true →
      ((perform s op).run w).world = w ∧
        ∀ e ∈ ((perform s op).run w).events, e.isRecord = true) := by
  obtain ⟨asked, hf⟩ := h.consistent
  have hpath := path_turn s op w
  refine ⟨fun fault => hpath.eq_refused_iff hf fault, ?_, world_eq_of_isIdle s op w⟩
  rintro text rfl
  exact hpath.eq_linkOpened

/-- After the credential was issued. -/
def issuedOnce : World Script :=
  scriptedAfter [.submitPhone "+31612345678", .submitCode "1"] {}

/-- Once the credential was issued another code is refused, a text that is no link is ignored, and
there is nowhere to go back to. -/
theorem refused_once_issued :
    (Reached (.scripted .standard) { confirmStep := false } issuedOnce ∧
      issuedOnce.flow.step = .done ∧ issuedOnce.flow.codeForm = ⟨"1", true⟩) ∧
    (((perform (.scripted .standard) (.submitCode "2")).run issuedOnce).value =
        .refused (.invalidTransition "submit a code" .done) ∧
      ((perform (.scripted .standard) (.submitCode "2")).run issuedOnce).world = issuedOnce) ∧
    (((perform (.scripted .standard) (.openLink "#!verify:1")).run issuedOnce).value =
        .linkOpened false ∧
      ((perform (.scripted .standard) (.openLink "#!verify:1")).run issuedOnce).world =
        issuedOnce) ∧
    ((perform (.scripted .standard) .back).run issuedOnce).value = .wentBack .hidden ∧
      ((perform (.scripted .standard) .back).run issuedOnce).world = issuedOnce := by
  have hreached : Reached (.scripted .standard) { confirmStep := false } issuedOnce :=
    reached_scriptedAfter _ _
  have hstep : issuedOnce.flow.step = .done := by decide +kernel
  have hform : issuedOnce.flow.codeForm = ⟨"1", true⟩ := by decide +kernel
  refine ⟨⟨hreached, hstep, hform⟩, ?_, ?_, ?_⟩
  · obtain ⟨hrefused, -, hidle⟩ := refused_iff_of_reached hreached (.submitCode "2")
    have hvalue := (hrefused (.invalidTransition "submit a code" .done)).mpr
      ⟨.token, "submit a code", rfl, by rw [hstep]; decide, by rw [hstep]⟩
    exact ⟨hvalue, (hidle (by rw [hvalue]; rfl)).1⟩
  · obtain ⟨-, hlink, hidle⟩ := refused_iff_of_reached hreached (.openLink "#!verify:1")
    have hvalue : ((perform (.scripted .standard) (.openLink "#!verify:1")).run issuedOnce).value =
        .linkOpened false := hlink _ rfl
    exact ⟨hvalue, (hidle (by rw [hvalue]; rfl)).1⟩
  · obtain ⟨-, -, hidle⟩ := refused_iff_of_reached hreached .back
    have hvalue : ((perform (.scripted .standard) .back).run issuedOnce).value =
        .wentBack .hidden := by decide +kernel
    exact ⟨hvalue, (hidle (by rw [hvalue]; rfl)).1⟩

end Flow

end PhoneVerification
