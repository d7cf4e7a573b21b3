import PhoneVerification.Proofs.Flow.History

/-!
# What is on display

Somebody who only looks at the views that are published has the last one of them on display. A plan
is watched if something holds of the display whenever a question is asked, and if at the end the
display is the view of the flow. `Awaits` lists what is on display while an answer is awaited, and
`watched_plan` says that every operation is watched so.

## Implementation notes

An operation that publishes nothing leaves on display what was there before. So a display is an
optional view, `none` as long as nothing was published, and the view at the beginning is kept apart.
-/

namespace PhoneVerification

namespace Event

/-- The view of an event with the observer it was shown to, if the event is one. -/
def view? : Event → Option (String × View)
  | .view name v => some (name, v)
  | .effect _ | .exchange _ => none

/-- The views among some events, each with the observer it was shown to, in their order. -/
def views (es : List Event) : List (String × View) :=
  es.filterMap view?

/-- What is on display after some events, if it was `shown` before. -/
def display (shown : Option View) (es : List Event) : Option View :=
  ((views es).getLast?.map Prod.snd).or shown

@[simp] theorem views_nil : views [] = [] :=
  rfl

@[simp] theorem views_append (es fs : List Event) : views (es ++ fs) = views es ++ views fs :=
  List.filterMap_append

@[simp] theorem views_effect (e : Effect) (es : List Event) : views (.effect e :: es) = views es :=
  rfl

@[simp] theorem views_exchange (x : Exchange) (es : List Event) :
    views (.exchange x :: es) = views es :=
  rfl

@[simp] theorem views_effects (es : List Effect) : views (es.map .effect) = [] := by
  simp [views, List.filterMap_map, Function.comp_def, view?]

@[simp] theorem views_shownTo (name : String) (v : View) :
    views (Plan.shownTo (some name) v) = [(name, v)] :=
  rfl

@[simp] theorem display_nil (shown : Option View) : display shown [] = shown :=
  rfl

theorem display_append (shown : Option View) (es fs : List Event) :
    display shown (es ++ fs) = display (display shown es) fs := by
  cases h : (views fs).getLast? with
  | none =>
      have hfs : views fs = [] := List.getLast?_eq_none_iff.mp h
      simp [display, hfs]
  | some p => simp [display, h]

/-- Once something was published, it does not matter what was on display before. -/
theorem display_eq_of_views_ne_nil {es : List Event} (h : views es ≠ []) (shown shown' : Option View) :
    display shown es = display shown' es := by
  obtain ⟨p, hp⟩ := Option.isSome_iff_exists.mp (List.getLast?_isSome.mpr h)
  simp [display, hp]

theorem views_ne_nil_of_display {es : List Event} {v : View} (h : display none es = some v) :
    views es ≠ [] := by
  intro hnil
  simp [display, hnil] at h

/-- What was published is on display whatever was on display before. -/
theorem display_eq_some {es : List Event} {v : View} (h : display none es = some v)
    (shown : Option View) : display shown es = some v := by
  rw [display_eq_of_views_ne_nil (views_ne_nil_of_display h) shown none, h]

end Event

namespace Plan

variable {σ : Type}

/-- `A` holds of the display whenever a question is asked, and the display at the end is the view of
the flow. If nothing was published, that is the view from before. -/
def Watched (before : View) (A : Option View → Exchange → Prop) : Plan → Option View → Prop
  | ends _ flow, shown => flow.view = shown.getD before
  | notes _ next, shown => next.Watched before A shown
  | shows view next, _ => next.Watched before A (some view)
  | asks question next, shown =>
    ∀ a, A shown (question.exchange a) ∧ (next a).Watched before A shown

/-- `A` holds of the display when an event is a question. -/
def AskedBefore (A : Option View → Exchange → Prop) (shown : Option View) (past : List Event) :
    Event → Prop
  | .exchange x => A (Event.display shown past) x
  | .effect _ | .view _ _ => True

theorem askedBefore_append {A : Option View → Exchange → Prop} {shown : Option View}
    {past es : List Event} (hpast : Each (AskedBefore A shown) past)
    (hes : Each (AskedBefore A (Event.display shown past)) es) :
    Each (AskedBefore A shown) (past ++ es) := by
  refine hpast.append ?_
  intro pre e post h
  have he := hes pre e post h
  cases e with
  | effect e => trivial
  | exchange x => simpa [AskedBefore, Event.display_append] using he
  | view name v => trivial

theorem askedBefore_effects (A : Option View → Exchange → Prop) (shown : Option View)
    (es : List Effect) : Each (AskedBefore A shown) (es.map .effect) := by
  intro pre e post h
  have hmem : e ∈ es.map Event.effect := by rw [h]; simp
  obtain ⟨effect, -, rfl⟩ := List.mem_map.mp hmem
  trivial

/-- All views are shown to the one observer. -/
theorem views_follow (p : Plan) (s : Services σ) (name : String) (v : σ) :
    ∀ shown ∈ Event.views (p.follow s (some name) v).events, shown.1 = name := by
  induction p generalizing v with
  | ends reply flow => simp [Plan.follow]
  | notes record next ih => simpa [Plan.follow] using ih v
  | shows view next ih => simpa [Plan.follow] using ih v
  | asks question next ih => simpa [Plan.follow] using ih _ _

theorem Watched.follow {before : View} {A : Option View → Exchange → Prop} {p : Plan}
    {shown : Option View} (h : p.Watched before A shown) (s : Services σ) (name : String) (v : σ) :
    Each (AskedBefore A shown) (p.follow s (some name) v).events ∧
      (Event.display shown (p.follow s (some name) v).events).getD before =
        (p.follow s (some name) v).world.flow.view := by
  induction p generalizing shown v with
  | ends reply flow => exact ⟨.nil, h.symm⟩
  | notes record next ih =>
      obtain ⟨hasked, hend⟩ := ih h v
      exact ⟨.cons trivial hasked, hend⟩
  | shows view next ih =>
      obtain ⟨hasked, hend⟩ := ih h v
      simp only [Plan.follow]
      refine ⟨askedBefore_append (.singleton trivial) hasked, ?_⟩
      rw [Event.display_append]
      exact hend
  | asks question next ih =>
      obtain ⟨hquestion, hnext⟩ := h ((s.answer question).run v).value
      obtain ⟨hasked, hend⟩ := ih _ hnext ((s.answer question).run v).world
      simp only [Plan.follow]
      have hdisplay : Event.display shown (((s.answer question).run v).events.map .effect) = shown := by
        simp [Event.display]
      refine ⟨askedBefore_append (askedBefore_effects A shown _) ?_, ?_⟩
      · rw [hdisplay]
        exact .cons hquestion hasked
      · rw [Event.display_append, hdisplay]
        exact hend

end Plan

namespace Flow

/-- What is on display while the answer to a question of an operation is awaited. -/
inductive Awaits (f : Flow) : Operation → Option View → Exchange → Prop
  | validation (hstep : f.step = .phone) (raw : String)
      (answer : Except PhoneRejection PhoneNumber) :
      Awaits f (.submitPhone raw) none (.validate raw answer)
  | sending (hstep : f.step = .phone) (raw : String) (phone : PhoneNumber)
      (answer : Except ApiFailure SmsDispatch) :
      Awaits f (.submitPhone raw) (some (f.numbered raw phone).sending.view)
        (.send phone f.config.locale answer)
  | confirmed (hstep : f.step = .confirm) (phone : PhoneNumber)
      (answer : Except ApiFailure SmsDispatch) :
      Awaits f .confirm (some f.sending.view) (.send phone f.config.locale answer)
  | verifying (hstep : f.step = .token) (raw : String) (phone : PhoneNumber)
      (answer : Except ApiFailure SessionToken) :
      Awaits f (.submitCode raw) (some (f.verifying raw).view)
        (.verify phone (.normalize raw) answer)
  | issuing (hstep : f.step = .token) (raw : String) (token : SessionToken)
      (outcome : IssuanceOutcome) :
      Awaits f (.submitCode raw) (some (f.verifying raw).verified.view)
        (.issue token f.issuanceOptions outcome)
  | linkVerifying {text : String} {link : VerifyLink} (hlink : VerifyLink.parse? text = some link)
      (answer : Except ApiFailure SessionToken) :
      Awaits f (.openLink text) (some ((f.resumed link).verifying link.code).view)
        (.verify (.unchecked link.phone) (.normalize link.code) answer)
  | linkIssuing {text : String} {link : VerifyLink} (hlink : VerifyLink.parse? text = some link)
      (token : SessionToken) (outcome : IssuanceOutcome) :
      Awaits f (.openLink text) (some ((f.resumed link).verifying link.code).verified.view)
        (.issue token f.issuanceOptions outcome)

section Watched

variable {f : Flow} {before : View} {A : Option View → Exchange → Prop} {shown : Option View}

@[simp] theorem watched_recordStep {p : Plan} :
    (f.recordStep p).Watched before A shown ↔ p.Watched before A shown :=
  Iff.rfl

@[simp] theorem watched_recordStatus {p : Plan} :
    (f.recordStatus p).Watched before A shown ↔ p.Watched before A shown := by
  unfold recordStatus
  split
  · exact Iff.rfl
  · exact Iff.rfl

@[simp] theorem watched_showing (reply : Reply) : (f.showing reply).Watched before A shown :=
  rfl

theorem watched_sendPlan {phone : PhoneNumber}
    (h : ∀ answer, A (some f.sending.view) (.send phone f.config.locale answer)) :
    (f.sendPlan phone).Watched before A shown := by
  simp only [sendPlan, watched_recordStatus, Plan.Watched]
  intro answer
  refine ⟨h answer, ?_⟩
  cases answer with
  | ok dispatch => simp
  | error failure => simp

theorem watched_verifyPlan {reply : Reply} {phone : PhoneNumber} {raw : String}
    (hverify : ∀ answer, A (some (f.verifying raw).view) (.verify phone (.normalize raw) answer))
    (hissue : ∀ token outcome,
      A (some (f.verifying raw).verified.view) (.issue token f.issuanceOptions outcome)) :
    (f.verifyPlan reply phone raw).Watched before A shown := by
  simp only [verifyPlan, watched_recordStatus, Plan.Watched]
  intro answer
  refine ⟨hverify answer, ?_⟩
  cases answer with
  | ok token =>
      simp only [watched_recordStatus, watched_recordStep, Plan.Watched]
      exact fun outcome => ⟨hissue token outcome, watched_showing reply⟩
  | error failure => simp

theorem watched_stepPlan {step : Step} {action : String} {next : Plan}
    (h : f.step = step → next.Watched f.view A none) :
    (f.stepPlan step action next).Watched f.view A none := by
  unfold stepPlan
  split
  next hstep => exact h hstep
  next hstep => rfl

theorem watched_numberPlan {action : String} {next : PhoneNumber → Plan}
    (h : ∀ phone, (next phone).Watched f.view A none) :
    (f.numberPlan action next).Watched f.view A none := by
  unfold numberPlan
  split
  next phone hphone => exact h phone
  next hphone => rfl

end Watched

/-- While an operation awaits an answer, the display shows it, and at the end the display is the view of
the flow. -/
theorem watched_plan (f : Flow) (op : Operation) :
    (f.plan op).Watched f.view (Awaits f op) none := by
  cases op with
  | submitPhone raw =>
      refine watched_stepPlan fun hstep answer => ⟨.validation hstep raw answer, ?_⟩
      cases answer with
      | ok phone =>
          simp only [acceptPlan]
          split
          · rfl
          · exact watched_sendPlan fun answer => .sending hstep raw phone answer
      | error rejection => simp [Plan.Watched]
  | confirm =>
      refine watched_stepPlan fun hstep => watched_numberPlan fun phone => ?_
      exact watched_sendPlan fun answer => .confirmed hstep phone answer
  | submitCode raw =>
      refine watched_stepPlan fun hstep => watched_numberPlan fun phone => ?_
      unfold codePlan
      split
      · simp
      · exact watched_verifyPlan (fun answer => .verifying hstep raw phone answer)
          fun token outcome => .issuing hstep raw token outcome
  | openLink text =>
      simp only [plan]
      cases hlink : VerifyLink.parse? text with
      | none => rfl
      | some link =>
          have hverify : ((f.resumed link).verifyPlan (.linkOpened true) (.unchecked link.phone)
              link.code).Watched f.view (Awaits f (.openLink text)) none :=
            watched_verifyPlan (fun answer => .linkVerifying hlink answer)
              fun token outcome => .linkIssuing hlink token outcome
          exact hverify
  | back =>
      simp only [plan]
      cases f.controls.back with
      | navigate step => rfl
      | history => rfl
      | hidden => rfl
  | restart => rfl
  | observe name => rfl

end Flow

end PhoneVerification
