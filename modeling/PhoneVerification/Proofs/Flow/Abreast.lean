import PhoneVerification.Proofs.Coupling
import PhoneVerification.Proofs.Flow.Display
import PhoneVerification.Proofs.Flow.Guise

/-!
# Runs in two guises

Two runs in the two configurations of a guise, with services that answer the same up to the failures
that count as the same, stay abreast (`abreast_worldAfter`): after every operation they have been asked
the same, and every view that one of them showed was shown by the other too, with a status that is
told in the guise (`keepUp_perform`). The plans of the operations are gone through once, for all
guises.

## Implementation notes

Records are left out of the comparison: with different texts shown there are different records of them,
and sometimes none on one side. Everything else is compared in its place. So that a status can be
traced to an answer, a view is seen together with the latest exchange of its operation.
-/

namespace PhoneVerification

variable {G : Guise} {σ τ : Type} {R : σ → τ → Prop} {s : Services σ} {t : Services τ}

/-- The same question in two guises. -/
inductive Question.Abreast (G : Guise) : {α : Type} → Question α → Question α → Prop
  | validate (raw : String) : Abreast G (.validate raw) (.validate raw)
  | send (phone : PhoneNumber) :
      Abreast G (.send phone G.config.locale) (.send phone G.config'.locale)
  | verify (phone : PhoneNumber) (code : VerificationCode) :
      Abreast G (.verify phone code) (.verify phone code)
  | issue (token : SessionToken) :
      Abreast G (.issue token ⟨G.config.issuanceServer, G.config.locale⟩)
        (.issue token ⟨G.config'.issuanceServer, G.config'.locale⟩)

/-- Answers to a question that count as the same. -/
def Question.AnswersAbreast (G : Guise) {α : Type} : Question α → α → α → Prop
  | .validate _ => Eq
  | .send _ _ => AgreeUpTo G.failures
  | .verify _ _ => AgreeUpTo G.failures
  | .issue _ _ => Eq

/-- Services that answer the same in two guises, whatever else they leave behind. -/
def Services.Abreast (G : Guise) (R : σ → τ → Prop) (s : Services σ) (t : Services τ) : Prop :=
  ∀ ⦃α : Type⦄ (q q' : Question α), q.Abreast G q' →
    Action.Coupled (fun _ => ([] : List Event)) R (q.AnswersAbreast G) (s.answer q) (t.answer q')

/-- The same question with answers that count as the same. -/
inductive Exchange.Abreast (G : Guise) : Exchange → Exchange → Prop
  | answered {α : Type} {q q' : Question α} {a a' : α} (hq : q.Abreast G q')
      (ha : q.AnswersAbreast G a a') : Abreast G (q.exchange a) (q'.exchange a')

/-- A view with the observer it was shown to and the latest exchange of its operation. -/
structure Sighting where
  latest : Option Exchange
  observer : String
  view : View

/-- Views of flows that are abreast, shown to the same observer. -/
structure Sighting.Abreast (G : Guise) (p p' : Sighting) : Prop where
  observer : p.observer = p'.observer
  view : ∃ f g : Flow, p.view = f.view ∧ p'.view = g.view ∧ Flow.Shown G p.latest p'.latest f g

namespace Event

/-- The latest exchange after some events, if it was `before` in front of them. -/
def latest (before : Option Exchange) (es : List Event) : Option Exchange :=
  (exchanges es).getLast?.or before

/-- The views among some events, each with the latest exchange before it. -/
def sightings : Option Exchange → List Event → List Sighting
  | _, [] => []
  | latest, .effect _ :: es => sightings latest es
  | _, .exchange x :: es => sightings (some x) es
  | latest, .view name v :: es => ⟨latest, name, v⟩ :: sightings latest es

variable {x : Option Exchange}

@[simp] theorem latest_effect (e : Effect) (es : List Event) :
    latest x (.effect e :: es) = latest x es :=
  rfl

@[simp] theorem latest_effects (effects : List Effect) (es : List Event) :
    latest x (effects.map .effect ++ es) = latest x es := by
  simp [latest]

@[simp] theorem latest_exchange (y : Exchange) (es : List Event) :
    latest x (.exchange y :: es) = latest (some y) es := by
  unfold latest
  rw [exchanges_exchange, List.getLast?_cons]
  cases (exchanges es).getLast? <;> rfl

@[simp] theorem latest_shownTo (observer : Option String) (v : View) (es : List Event) :
    latest x (Plan.shownTo observer v ++ es) = latest x es := by
  simp [latest]

@[simp] theorem sightings_effects (effects : List Effect) (es : List Event) :
    sightings x (effects.map .effect ++ es) = sightings x es := by
  induction effects with
  | nil => rfl
  | cons e effects ih => exact ih

theorem sightings_shownTo (observer : Option String) (v : View) (es : List Event) :
    sightings x (Plan.shownTo observer v ++ es) =
      observer.toList.map (⟨x, ·, v⟩) ++ sightings x es := by
  cases observer with
  | none => rfl
  | some name => rfl

/-- The views are those that are published. -/
theorem map_sightings (es : List Event) :
    (sightings x es).map (fun p => (p.observer, p.view)) = views es := by
  induction es generalizing x with
  | nil => rfl
  | cons e es ih =>
      cases e with
      | effect e => exact ih
      | exchange y => exact ih
      | view name v => exact congrArg ((name, v) :: ·) ih

end Event

theorem map_eq_map_of_forall₂ {α β γ : Type} {P : α → β → Prop} {f : α → γ} {g : β → γ}
    {xs : List α} {ys : List β} (h : List.Forall₂ P xs ys) (hfg : ∀ x y, P x y → f x = g y) :
    xs.map f = ys.map g := by
  have hmap : List.Forall₂ Eq (xs.map f) (ys.map g) := by
    rw [List.forall₂_map_left_iff, List.forall₂_map_right_iff]
    exact h.imp hfg
  rwa [List.forall₂_eq_eq_eq] at hmap

/-- Plans that ask the same and show flows that are abreast. `E` holds of both ends and of the latest
exchanges there. -/
inductive Plan.Abreast (G : Guise)
    (E : Option Exchange → Option Exchange → Reply → Flow → Reply → Flow → Prop) :
    Option Exchange → Option Exchange → Plan → Plan → Prop
  | ends {x x' : Option Exchange} {r r' : Reply} {f g : Flow} (h : E x x' r f r' g) :
      Abreast G E x x' (.ends r f) (.ends r' g)
  | noteLeft {x x' : Option Exchange} (record : Log.Record) {a b : Plan}
      (h : Abreast G E x x' a b) : Abreast G E x x' (.notes record a) b
  | noteRight {x x' : Option Exchange} (record : Log.Record) {a b : Plan}
      (h : Abreast G E x x' a b) : Abreast G E x x' a (.notes record b)
  | shows {x x' : Option Exchange} {f g : Flow} (hshown : f.Shown G x x' g) {a b : Plan}
      (h : Abreast G E x x' a b) : Abreast G E x x' (.shows f.view a) (.shows g.view b)
  | asks {x x' : Option Exchange} {α : Type} {q q' : Question α} (hq : q.Abreast G q')
      {a b : α → Plan}
      (h : ∀ y y', q.AnswersAbreast G y y' →
        Abreast G E (some (q.exchange y)) (some (q'.exchange y')) (a y) (b y')) :
      Abreast G E x x' (.asks q a) (.asks q' b)

namespace Flow

/-- Outcomes of two operations that keep up with each other: they end in `E`, ask the same and show the
same flows. -/
structure KeepUp (G : Guise) (R : σ → τ → Prop)
    (E : Option Exchange → Option Exchange → Reply → Flow → Reply → Flow → Prop)
    (x x' : Option Exchange) (o : Outcome Event (World σ) Reply) (o' : Outcome Event (World τ) Reply) :
    Prop where
  ended : E (Event.latest x o.events) (Event.latest x' o'.events) o.value o.world.flow o'.value
    o'.world.flow
  services : R o.world.services o'.world.services
  exchanges : List.Forall₂ (Exchange.Abreast G) (Event.exchanges o.events)
    (Event.exchanges o'.events)
  sightings : List.Forall₂ (Sighting.Abreast G) (Event.sightings x o.events)
    (Event.sightings x' o'.events)

end Flow

/-- Plans that are abreast, followed before the same observer with services that answer the same. -/
theorem Plan.Abreast.follow
    {E : Option Exchange → Option Exchange → Reply → Flow → Reply → Flow → Prop}
    {x x' : Option Exchange} {a b : Plan} (h : Plan.Abreast G E x x' a b)
    (hs : Services.Abreast G R s t) (observer : Option String) {v : σ} {u : τ} (hR : R v u) :
    Flow.KeepUp G R E x x' (a.follow s observer v) (b.follow t observer u) := by
  induction h generalizing v u with
  | ends h => exact ⟨h, hR, .nil, .nil⟩
  | noteLeft record h ih =>
      obtain ⟨hended, hservices, hexchanges, hsightings⟩ := ih hR
      exact ⟨hended, hservices, hexchanges, hsightings⟩
  | noteRight record h ih =>
      obtain ⟨hended, hservices, hexchanges, hsightings⟩ := ih hR
      exact ⟨hended, hservices, hexchanges, hsightings⟩
  | @shows x x' f g hshown a b h ih =>
      obtain ⟨hended, hservices, hexchanges, hsightings⟩ := ih hR
      refine ⟨?_, hservices, ?_, ?_⟩
      · simpa only [Plan.follow, Event.latest_shownTo] using hended
      · simpa [Plan.follow] using hexchanges
      · simp only [Plan.follow, Event.sightings_shownTo]
        cases observer with
        | none => exact hsightings
        | some name => exact .cons ⟨rfl, f, g, rfl, rfl, hshown⟩ hsightings
  | @asks x x' α q q' hq a b h ih =>
      obtain ⟨hvalue, hworld, -⟩ := hs q q' hq v u hR
      obtain ⟨hended, hservices, hexchanges, hsightings⟩ := ih _ _ hvalue hworld
      refine ⟨?_, hservices, ?_, ?_⟩
      · simpa only [Plan.follow, Event.latest_effects, Event.latest_exchange] using hended
      · simpa [Plan.follow] using ⟨.answered hq hvalue, hexchanges⟩
      · simpa only [Plan.follow, Event.sightings_effects, Event.sightings] using hsightings

/-- Replies in two guises. They differ only where the back control leaves the flow. -/
inductive Reply.Abreast (G : Guise) (op : Operation) (step : Step) : Reply → Reply → Prop
  | same (r : Reply) : Abreast G op step r r
  | left (hop : op = .back) (hstep : step = .phone) :
      Abreast G op step (.wentBack (Controls.backOf G.config.historyAvailable .phone))
        (.wentBack (Controls.backOf G.config'.historyAvailable .phone))

namespace Flow

/-- The ends of an operation on the flows `before` and `before'`. What is told was told by the
operation, or is what was told before. -/
structure Ended (G : Guise) (op : Operation) (before before' : Flow) (x x' : Option Exchange)
    (r : Reply) (f : Flow) (r' : Reply) (g : Flow) : Prop where
  reply : r.Abreast G op before.step r'
  flow : f.Abreast G g
  status : Told G x x' f.status g.status ∨ f.status = before.status ∧ g.status = before'.status

theorem Shown.ended {f g : Flow} {x x' : Option Exchange} (h : f.Shown G x x' g) (op : Operation)
    (before before' : Flow) (r : Reply) : Ended G op before before' x x' r f r g :=
  ⟨.same r, h.flow, .inl h.status⟩

namespace Abreast

variable {f g before before' : Flow} {op : Operation} {x x' : Option Exchange} {a b : Plan}
  {E : Option Exchange → Option Exchange → Reply → Flow → Reply → Flow → Prop}

theorem recordStep (h : Plan.Abreast G E x x' a b) :
    Plan.Abreast G E x x' (f.recordStep a) (g.recordStep b) :=
  .noteLeft _ (.noteRight _ h)

/-- There may be a record of the message on one side only. -/
theorem recordStatus (h : Plan.Abreast G E x x' a b) :
    Plan.Abreast G E x x' (f.recordStatus a) (g.recordStatus b) := by
  have hleft : Plan.Abreast G E x x' a (g.recordStatus b) := by
    unfold Flow.recordStatus
    cases g.status with
    | none => exact h
    | some message => exact .noteRight _ h
  unfold Flow.recordStatus
  cases f.status with
  | none => exact hleft
  | some message => exact .noteLeft _ hleft

theorem showing (h : f.Shown G x x' g) (r : Reply) :
    Plan.Abreast G (Ended G op before before') x x' (f.showing r) (g.showing r) :=
  .shows h (.ends (h.ended op before before' r))

theorem sendPlan (h : f.Abreast G g) (hx : x.any Exchange.refusesCode = false)
    (phone : PhoneNumber) :
    Plan.Abreast G (Ended G op before before') x x' (f.sendPlan phone) (g.sendPlan phone) := by
  have hsending : f.sending.Shown G x x' g.sending := h.sending hx
  unfold Flow.sendPlan
  rw [h.config, h.config']
  refine recordStatus (.shows hsending (.asks (.send phone) fun y y' hanswer => ?_))
  cases hanswer with
  | ok dispatch =>
      exact recordStatus (recordStep (showing (hsending.flow.sent phone dispatch) .done))
  | error hfailure =>
      exact recordStep (recordStatus (showing (hsending.flow.unsent phone hfailure) .done))

theorem verifyPlan (h : f.Abreast G g) (reply : Reply) (phone : PhoneNumber) (raw : String) :
    Plan.Abreast G (Ended G op before before') none none (f.verifyPlan reply phone raw)
      (g.verifyPlan reply phone raw) := by
  have hverifying := h.verifying raw
  unfold Flow.verifyPlan issuanceOptions
  rw [h.config, h.config']
  refine recordStatus (.shows hverifying (.asks (.verify phone _) fun y y' hanswer => ?_))
  cases hanswer with
  | error hfailure =>
      exact recordStatus (showing (hverifying.flow.unverified phone _ hfailure) reply)
  | ok token =>
      have hverified : (f.verifying raw).verified.Shown G
          (some (.verify phone (.normalize raw) (.ok token)))
          (some (.verify phone (.normalize raw) (.ok token))) (g.verifying raw).verified :=
        hverifying.flow.verified rfl
      refine recordStatus (recordStep (.shows hverified (.asks (.issue token) ?_)))
      intro outcome outcome' houtcome
      obtain rfl : outcome = outcome' := houtcome
      exact .noteLeft _ (.noteRight _ (recordStatus
        (showing (hverified.flow.concluded rfl outcome) reply)))

theorem codePlan (h : f.Abreast G g) (reply : Reply) (phone : PhoneNumber) (raw : String) :
    Plan.Abreast G (Ended G op before before') none none (f.codePlan reply phone raw)
      (g.codePlan reply phone raw) := by
  unfold Flow.codePlan
  split
  · exact recordStatus (showing (h.blankWarned raw) reply)
  · exact h.verifyPlan reply phone raw

/-- An operation that changes nothing. -/
theorem unchanged (h : f.Abreast G g) (r : Reply) :
    Plan.Abreast G (Ended G op f g) x x' (.ends r f) (.ends r g) :=
  .ends ⟨.same r, h, .inr ⟨rfl, rfl⟩⟩

theorem stepPlan (h : f.Abreast G g) (step : Step) (action : String)
    (hnext : Plan.Abreast G (Ended G op f g) x x' a b) :
    Plan.Abreast G (Ended G op f g) x x' (f.stepPlan step action a) (g.stepPlan step action b) := by
  unfold Flow.stepPlan
  simp only [notAllowed, h.step]
  split
  · exact hnext
  · exact h.unchanged _

theorem numberPlan (h : f.Abreast G g) (action : String) {next next' : PhoneNumber → Plan}
    (hnext : ∀ phone, Plan.Abreast G (Ended G op f g) x x' (next phone) (next' phone)) :
    Plan.Abreast G (Ended G op f g) x x' (f.numberPlan action next)
      (g.numberPlan action next') := by
  unfold Flow.numberPlan
  simp only [notAllowed, h.step, h.phone]
  split
  · exact hnext _
  · exact h.unchanged _

theorem acceptPlan (h : f.Abreast G g) (hx : x.any Exchange.refusesCode = false)
    (phone : PhoneNumber) :
    Plan.Abreast G (Ended G op before before') x x' (f.acceptPlan phone) (g.acceptPlan phone) := by
  unfold Flow.acceptPlan
  rw [h.config, h.config', G.confirmStep_eq]
  split
  · exact recordStep (showing (h.confirming hx) .done)
  · exact h.sendPlan hx phone

theorem backPlan_phone (f : Flow) (historyAvailable : Bool) :
    f.backPlan (Controls.backOf historyAvailable .phone) =
      .ends (.wentBack (Controls.backOf historyAvailable .phone)) f := by
  cases historyAvailable with
  | false => rfl
  | true => rfl

/-- The back control leads to the phone number on both sides, or leaves both flows as they are. -/
theorem backPlan (h : f.Abreast G g) :
    Plan.Abreast G (Ended G .back f g) none none (f.backPlan f.controls.back)
      (g.backPlan g.controls.back) := by
  have hback : g.controls.back = Controls.backOf G.config'.historyAvailable f.step := by
    rw [h.controls', Controls.of, h.step]
  rw [h.controls, hback, Controls.of]
  cases hstep : f.step with
  | phone =>
      rw [backPlan_phone, backPlan_phone]
      exact .ends ⟨.left rfl hstep, h, .inr ⟨rfl, rfl⟩⟩
  | confirm => exact recordStep (showing h.wentToPhone _)
  | token => exact recordStep (showing h.wentToPhone _)
  | done => exact h.unchanged _

/-- Every operation has plans that are abreast, from flows that are. -/
theorem plan (h : f.Abreast G g) (op : Operation) :
    Plan.Abreast G (Ended G op f g) none none (f.plan op) (g.plan op) := by
  cases op with
  | submitPhone raw =>
      refine h.stepPlan _ _ (.asks (.validate raw) fun y y' hanswer => ?_)
      obtain rfl : y = y' := hanswer
      cases y with
      | ok phone => exact (h.numbered raw phone).acceptPlan rfl phone
      | error rejection =>
          exact .noteLeft _ (.noteRight _ (recordStatus (showing (h.numberWarned raw rejection) _)))
  | confirm => exact h.stepPlan _ _ (h.numberPlan _ fun phone => h.sendPlan rfl phone)
  | submitCode raw =>
      exact h.stepPlan _ _ (h.numberPlan _ fun phone => h.codePlan .done phone raw)
  | openLink text =>
      simp only [Flow.plan]
      cases VerifyLink.parse? text with
      | none => exact .noteLeft _ (.noteRight _ (h.unchanged _))
      | some link =>
          have hresumed := h.resumed link
          exact .noteLeft _ (.noteRight _ (recordStep (hresumed.verifyPlan _ _ _)))
  | back => exact h.backPlan
  | restart => exact recordStep (showing h.restarted .done)
  | observe name => exact .ends ⟨.same .done, h.observed name, .inr ⟨rfl, rfl⟩⟩

end Abreast

/-- An operation on flows that are abreast keeps up in both guises. -/
theorem keepUp_perform (hs : Services.Abreast G R s t) {w : World σ} {w' : World τ}
    (h : w.flow.Abreast G w'.flow) (hR : R w.services w'.services) (op : Operation) :
    KeepUp G R (Ended G op w.flow w'.flow) none none ((perform s op).run w)
      ((perform t op).run w') := by
  rw [perform_eq_follow, perform_eq_follow, ← h.observer]
  exact (h.plan op).follow hs w.flow.observer hR

/-- Two runs stay abreast. What is told after them was told by one of their operations. -/
theorem abreast_worldAfter (hs : Services.Abreast G R s t) {v : σ} {u : τ} (hR : R v u)
    (ops : List Operation) :
    (worldAfter s ops (opened G.config v)).flow.Abreast G
        (worldAfter t ops (opened G.config' u)).flow ∧
      R (worldAfter s ops (opened G.config v)).services
        (worldAfter t ops (opened G.config' u)).services ∧
      ∃ x x', Told G x x' (worldAfter s ops (opened G.config v)).flow.status
        (worldAfter t ops (opened G.config' u)).flow.status := by
  induction ops using List.reverseRecOn with
  | nil => exact ⟨.start G, hR, none, none, .nothing rfl⟩
  | append_singleton ops op ih =>
      obtain ⟨hflow, hservices, x, x', htold⟩ := ih
      have hkept := keepUp_perform hs hflow hservices op
      rw [worldAfter_append, worldAfter_append]
      refine ⟨hkept.ended.flow, hkept.services, ?_⟩
      rcases hkept.ended.status with hstatus | ⟨hleft, hright⟩
      · exact ⟨_, _, hstatus⟩
      · rw [hleft, hright]
        exact ⟨x, x', htold⟩

end Flow

end PhoneVerification
