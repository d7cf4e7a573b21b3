import PhoneVerification.Flow.Script
import PhoneVerification.Proofs.Flow.Abreast

/-!
# Presentation does not change behaviour

The language, the announcement of a sent code, the history to go back to and the place of the number
formatter are matters of presentation. Two runs whose configurations differ in nothing else go through
the same steps with the same forms and the same replies, ask the same up to the language, and show
equally many views (`sameBehaviour_of_unadorned_eq`). A status is there on both sides with the same
severity, unless it is the announcement of a code that was just sent.
-/

namespace PhoneVerification

/-- Two configurations that differ in presentation only, with the same failures. -/
def Guise.presentations {c c' : Config} (h : c.unadorned = c'.unadorned) : Guise where
  config := c
  config' := c'
  unadorned_eq := h
  failures := Eq

/-- The question with its answer, as it is asked in a language. -/
def Exchange.inLanguage (l : Locale) : Exchange → Exchange
  | .send phone _ answer => .send phone l answer
  | .issue token options outcome => .issue token { options with locale := l } outcome
  | x => x

variable {c c' : Config} {h : c.unadorned = c'.unadorned}

theorem AgreeUpTo.eq {κ α : Type} {x y : Except κ α} (h : AgreeUpTo Eq x y) : x = y := by
  cases h with
  | ok a => rfl
  | error h => rw [h]

/-- The other side asks the same in its own language. -/
theorem Exchange.Abreast.inLanguage_eq {x x' : Exchange} (hx : x.Abreast (.presentations h) x') :
    x.inLanguage c'.locale = x' := by
  cases hx with
  | @answered α q q' a a' hq ha =>
      cases hq with
      | validate raw =>
          obtain rfl : a = a' := ha
          rfl
      | send phone =>
          obtain rfl : a = a' := AgreeUpTo.eq ha
          rfl
      | verify phone code =>
          obtain rfl : a = a' := AgreeUpTo.eq ha
          rfl
      | issue token =>
          obtain rfl : a = a' := ha
          have hserver := (Guise.presentations h).issuanceServer_eq
          exact congrArg (fun server => Exchange.issue token ⟨server, c'.locale⟩ a) hserver

/-- Views with the same content. The button has the label of the same key, and the back control differs
at most where it leaves the flow. -/
structure View.SameContent (c c' : Config) (v v' : View) : Prop where
  step : v.step = v'.step
  buttonLabel : ∃ key : Option MessageKey, v.buttonLabel = key.map (Message.text c.locale) ∧
    v'.buttonLabel = key.map (Message.text c'.locale)
  back : v.back = v'.back ∨ v.step = .phone ∧
    v.back = Controls.backOf c.historyAvailable .phone ∧
    v'.back = Controls.backOf c'.historyAvailable .phone
  phoneInput : v.phoneInput = v'.phoneInput
  phoneDisabled : v.phoneDisabled = v'.phoneDisabled
  codeInput : v.codeInput = v'.codeInput
  codeDisabled : v.codeDisabled = v'.codeDisabled
  confirmNumber : v.confirmNumber = v'.confirmNumber

/-- Statuses of the same severity, or none on both sides. -/
def SameSeverity (m m' : Option StatusMessage) : Prop :=
  m.map StatusMessage.severity = m'.map StatusMessage.severity

/-- The announcement of a code that was just sent, which each configuration makes or leaves out. -/
def Announced (c c' : Config) (x x' : Option Exchange) (m m' : Option StatusMessage) : Prop :=
  ∃ phone dispatch, x = some (.send phone c.locale (.ok dispatch)) ∧
    x' = some (.send phone c'.locale (.ok dispatch)) ∧
    m = c.announcement dispatch ∧ m' = c'.announcement dispatch

theorem Told.sameSeverity_or_announced {x x' : Option Exchange} {m m' : Option StatusMessage}
    (htold : Told (.presentations h) x x' m m') : SameSeverity m m' ∨ Announced c c' x x' m m' := by
  cases htold with
  | nothing hx => exact .inl rfl
  | message hx severity body => exact .inl rfl
  | sent phone dispatch => exact .inr ⟨phone, dispatch, rfl, rfl, rfl, rfl⟩
  | unsent phone hfailure => exact .inl rfl
  | refused phone code hfailure => exact .inl rfl

/-- The back control leads to the same place, unless it leaves the flow. -/
theorem Controls.backOf_eq_or (historyAvailable historyAvailable' : Bool) (step : Step) :
    backOf historyAvailable step = backOf historyAvailable' step ∨ step = .phone := by
  cases step with
  | phone => exact .inr rfl
  | confirm => exact .inl rfl
  | token => exact .inl rfl
  | done => exact .inl rfl

theorem Flow.Abreast.sameContent {f g : Flow} (hflow : f.Abreast (.presentations h) g) :
    View.SameContent c c' f.view g.view where
  step := hflow.step
  buttonLabel := by
    refine ⟨Controls.buttonOf f.step, ?_, ?_⟩
    · rw [Flow.view, hflow.controls, hflow.config]
      rfl
    · rw [Flow.view, hflow.controls', hflow.config', ← hflow.step]
      rfl
  back := by
    have hback : f.view.back = Controls.backOf c.historyAvailable f.step := by
      rw [Flow.view, hflow.controls]
      rfl
    have hback' : g.view.back = Controls.backOf c'.historyAvailable f.step := by
      rw [Flow.view, hflow.controls', ← hflow.step]
      rfl
    rw [hback, hback']
    rcases Controls.backOf_eq_or c.historyAvailable c'.historyAvailable f.step with heq | hphone
    · exact .inl heq
    · rw [hphone]
      exact .inr ⟨hphone, rfl, rfl⟩
  phoneInput := congrArg TextForm.input hflow.phoneForm
  phoneDisabled := congrArg TextForm.disabled hflow.phoneForm
  codeInput := congrArg TextForm.input hflow.codeForm
  codeDisabled := congrArg TextForm.disabled hflow.codeForm
  confirmNumber := congrArg (Option.map PhoneNumber.e164) hflow.phone

/-- Views with the same content, shown to the same observer. A status is on both sides, unless the code
was just sent. -/
structure Sighting.SameBehaviour (c c' : Config) (p p' : Sighting) : Prop where
  observer : p.observer = p'.observer
  content : View.SameContent c c' p.view p'.view
  status : SameSeverity p.view.status p'.view.status ∨
    Announced c c' p.latest p'.latest p.view.status p'.view.status

theorem Sighting.Abreast.sameBehaviour {p p' : Sighting} (hp : p.Abreast (.presentations h) p') :
    p.SameBehaviour c c' p' := by
  obtain ⟨f, g, hf, hg, hflow, htold⟩ := hp.view
  have hcontent := hflow.sameContent
  have hstatus : SameSeverity f.view.status g.view.status ∨
      Announced c c' p.latest p'.latest f.view.status g.view.status :=
    htold.sameSeverity_or_announced
  rw [← hf, ← hg] at hcontent hstatus
  exact ⟨hp.observer, hcontent, hstatus⟩

theorem Reply.Abreast.eq_or_left {op : Operation} {step : Step} {r r' : Reply}
    (hr : r.Abreast (.presentations h) op step r') :
    r = r' ∨ op = .back ∧ step = .phone ∧
      r = .wentBack (Controls.backOf c.historyAvailable .phone) ∧
      r' = .wentBack (Controls.backOf c'.historyAvailable .phone) := by
  cases hr with
  | same r => exact .inl rfl
  | left hop hstep => exact .inr ⟨hop, hstep, rfl, rfl⟩

namespace Flow

variable {σ τ : Type}

/-- Outcomes of an operation on two flows that behave the same. The replies differ at most where the back
control leaves the flow. A status is there on both sides with the same severity, unless it is the
announcement of a code, and then the operation has just sent it or has changed neither status. -/
structure SameBehaviour (c c' : Config) (op : Operation) (before before' : Flow)
    (o : Outcome Event (World σ) Reply) (o' : Outcome Event (World τ) Reply) : Prop where
  reply : o.value = o'.value ∨ op = .back ∧ before.step = .phone ∧
    o.value = .wentBack (Controls.backOf c.historyAvailable .phone) ∧
    o'.value = .wentBack (Controls.backOf c'.historyAvailable .phone)
  step : o.world.flow.step = o'.world.flow.step
  attempt : o.world.flow.attempt = o'.world.flow.attempt
  phone : o.world.flow.phone = o'.world.flow.phone
  phoneForm : o.world.flow.phoneForm = o'.world.flow.phoneForm
  codeForm : o.world.flow.codeForm = o'.world.flow.codeForm
  exchanges : (Event.exchanges o.events).map (Exchange.inLanguage c'.locale) =
    Event.exchanges o'.events
  views : (Event.views o.events).length = (Event.views o'.events).length
  sightings : List.Forall₂ (Sighting.SameBehaviour c c') (Event.sightings none o.events)
    (Event.sightings none o'.events)
  status : SameSeverity o.world.flow.status o'.world.flow.status ∨
    (∃ dispatch, o.world.flow.status = c.announcement dispatch ∧
      o'.world.flow.status = c'.announcement dispatch) ∧
    (Announced c c' (Event.latest none o.events) (Event.latest none o'.events)
        o.world.flow.status o'.world.flow.status ∨
      o.world.flow.status = before.status ∧ o'.world.flow.status = before'.status)

theorem KeepUp.sameBehaviour {R : σ → τ → Prop} {op : Operation} {before before' : Flow}
    {o : Outcome Event (World σ) Reply} {o' : Outcome Event (World τ) Reply}
    {x x' : Option Exchange}
    (hkept : KeepUp (.presentations h) R (Ended (.presentations h) op before before') none none o o')
    (hbefore : Told (.presentations h) x x' before.status before'.status) :
    SameBehaviour c c' op before before' o o' where
  reply := hkept.ended.reply.eq_or_left
  step := hkept.ended.flow.step
  attempt := hkept.ended.flow.attempt
  phone := hkept.ended.flow.phone
  phoneForm := hkept.ended.flow.phoneForm
  codeForm := hkept.ended.flow.codeForm
  exchanges := by
    have hexchanges := map_eq_map_of_forall₂ (g := id) hkept.exchanges fun _ _ hx => hx.inLanguage_eq
    rwa [List.map_id] at hexchanges
  views := by
    have hlength := hkept.sightings.length_eq
    rw [← Event.map_sightings (x := none), ← Event.map_sightings (x := none), List.length_map,
      List.length_map, hlength]
  sightings := hkept.sightings.imp fun _ _ hp => hp.sameBehaviour
  status := by
    rcases hkept.ended.status with htold | ⟨hleft, hright⟩
    · rcases htold.sameSeverity_or_announced with hsame | ⟨phone, dispatch, hx, hx', hm, hm'⟩
      · exact .inl hsame
      · exact .inr ⟨⟨dispatch, hm, hm'⟩, .inl ⟨phone, dispatch, hx, hx', hm, hm'⟩⟩
    · rcases hbefore.sameSeverity_or_announced with hsame | ⟨phone, dispatch, -, -, hm, hm'⟩
      · rw [← hleft, ← hright] at hsame
        exact .inl hsame
      · exact .inr ⟨⟨dispatch, hleft.trans hm, hright.trans hm'⟩, .inr ⟨hleft, hright⟩⟩

/-- Two runs whose configurations differ in presentation only behave the same: what the next operation
comes to is the same after any operations, if the services answer the same in both languages. -/
theorem sameBehaviour_of_unadorned_eq {c c' : Config} (h : c.unadorned = c'.unadorned)
    {R : σ → τ → Prop} {s : Services σ} {t : Services τ}
    (hs : Services.Abreast (.presentations h) R s t) {v : σ} {u : τ} (hR : R v u)
    (ops : List Operation) (op : Operation) :
    SameBehaviour c c' op (worldAfter s ops (opened c v)).flow (worldAfter t ops (opened c' u)).flow
      ((perform s op).run (worldAfter s ops (opened c v)))
      ((perform t op).run (worldAfter t ops (opened c' u))) := by
  obtain ⟨hflow, hservices, x, x', htold⟩ := abreast_worldAfter hs hR ops
  exact (keepUp_perform hs hflow hservices op).sameBehaviour htold

/-- Scripted services answer the same in every language. -/
theorem abreast_scripted (h : c.unadorned = c'.unadorned) (v : NumberValidator) :
    Services.Abreast (.presentations h) Eq (Services.scripted v) (Services.scripted v) := by
  intro α q q' hq script script' hscript
  subst hscript
  cases hq with
  | validate raw => exact ⟨rfl, rfl, rfl⟩
  | send phone => exact ⟨.refl (fun _ => rfl) _, rfl, rfl⟩
  | verify phone code => exact ⟨.refl (fun _ => rfl) _, rfl, rfl⟩
  | issue token => exact ⟨rfl, rfl, rfl⟩

/-- A configuration in which a code is sent at once and announced. -/
def plainConfig : Config where
  confirmStep := false

/-- The same in another language, without the announcement and with a history to go back to. -/
def adornedConfig : Config where
  confirmStep := false
  locale := .nl
  announceSent := false
  historyAvailable := true
  phoneUtilsPath := "utils.js"

/-- Services that read numbers as the plain configuration says. -/
def plainServices : Services Script :=
  .scripted (.ofConfig plainConfig)

/-- After a code was sent the announcement is on one side only, and back at the number the flow can be
left on the other side only. -/
theorem sameBehaviour_for_adorned :
    plainConfig.unadorned = adornedConfig.unadorned ∧
      (worldAfter plainServices [.submitPhone "0612345678"] (opened plainConfig {})).flow.status =
        plainConfig.announcement ⟨none⟩ ∧
      (worldAfter plainServices [.submitPhone "0612345678"] (opened adornedConfig {})).flow.status =
        none ∧
      SameBehaviour plainConfig adornedConfig (.submitPhone "0612345678")
        (worldAfter plainServices [] (opened plainConfig {})).flow
        (worldAfter plainServices [] (opened adornedConfig {})).flow
        ((perform plainServices (.submitPhone "0612345678")).run
          (worldAfter plainServices [] (opened plainConfig {})))
        ((perform plainServices (.submitPhone "0612345678")).run
          (worldAfter plainServices [] (opened adornedConfig {}))) ∧
      SameBehaviour plainConfig adornedConfig .back
        (worldAfter plainServices [.submitPhone "0612345678", .back] (opened plainConfig {})).flow
        (worldAfter plainServices [.submitPhone "0612345678", .back] (opened adornedConfig {})).flow
        ((perform plainServices .back).run
          (worldAfter plainServices [.submitPhone "0612345678", .back] (opened plainConfig {})))
        ((perform plainServices .back).run
          (worldAfter plainServices [.submitPhone "0612345678", .back] (opened adornedConfig {}))) := by
  have h : plainConfig.unadorned = adornedConfig.unadorned := by decide
  have hs : Services.Abreast (.presentations h) Eq plainServices plainServices :=
    abreast_scripted h _
  refine ⟨h, by decide +kernel, by decide +kernel, ?_, ?_⟩
  · exact sameBehaviour_of_unadorned_eq h hs rfl [] (.submitPhone "0612345678")
  · exact sameBehaviour_of_unadorned_eq h hs rfl [.submitPhone "0612345678", .back] .back

end Flow

end PhoneVerification
