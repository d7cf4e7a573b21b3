import PhoneVerification.Proofs.Flow.History

/-!
# Confirming at once

A flow without a confirmation step does what a flow with it does if every accepted number is
confirmed at once. Only an accepted number is treated differently by the two: the plans of all
other operations are the same but for the flow at their end (`plan_withConfirmStep`). The plan that
sends a code is shared, so the two meet again after the confirmation, although one has come from the
phone number and the other from the confirmation.
-/

namespace PhoneVerification

/-- Whether a number was accepted. -/
def Exchange.isAcceptance : Exchange → Bool
  | .validate _ (.ok _) => true
  | .validate _ (.error _) | .send _ _ _ | .verify _ _ _ | .issue _ _ _ => false

namespace Flow

/-- The same flow, but with a confirmation step. -/
def withConfirmStep (f : Flow) : Flow :=
  { f with config.confirmStep := true }

end Flow

namespace Turn

/-- Whether a number was entered at its step and accepted. -/
def acceptsNumber (t : Turn) : Bool :=
  match t.operation with
  | .submitPhone _ => t.before.step == .phone && t.asked.any Exchange.isAcceptance
  | _ => false

/-- The operation of a turn, with a confirmation right after a number that was accepted. -/
def confirmed (t : Turn) : List Operation :=
  t.operation :: if t.acceptsNumber then [.confirm] else []

/-- Turns that come to the same as one turn and a confirmation of the number that it accepted, if it
did: in their questions, in the reply to the operation, and in the flow that they leave. -/
structure Matches (t : Turn) (us : List Turn) : Prop where
  operations : us.map Turn.operation = t.confirmed
  asked : us.flatMap Turn.asked = t.asked
  reply : us.head?.map Turn.reply = some t.reply
  after : us.getLast?.map Turn.after = some t.after.withConfirmStep

end Turn

namespace Plan

variable {σ : Type}

/-- The same plan, with another flow at its end. -/
def mapFlow (h : Flow → Flow) : Plan → Plan
  | ends reply flow => .ends reply (h flow)
  | notes record next => .notes record (next.mapFlow h)
  | shows view next => .shows view (next.mapFlow h)
  | asks question next => .asks question fun a => (next a).mapFlow h

theorem follow_mapFlow (h : Flow → Flow) (p : Plan) (s : Services σ) (observer : Option String)
    (v : σ) :
    (p.mapFlow h).follow s observer v =
      ⟨(p.follow s observer v).value, (p.follow s observer v).events,
        ⟨h (p.follow s observer v).world.flow, (p.follow s observer v).world.services⟩⟩ := by
  induction p generalizing v with
  | ends reply flow => rfl
  | notes record next ih => simp only [mapFlow, follow, ih]
  | shows view next ih => simp only [mapFlow, follow, ih]
  | asks question next ih => simp only [mapFlow, follow, ih]

end Plan

namespace Flow

variable {σ : Type} {f g : Flow}

/-! ## Plans that do not ask whether numbers are confirmed -/

theorem mapFlow_recordStatus (h : Flow → Flow) (f : Flow) (p : Plan) :
    (f.recordStatus p).mapFlow h = f.recordStatus (p.mapFlow h) := by
  unfold recordStatus
  split
  · rfl
  · rfl

theorem sendPlan_withConfirmStep (f : Flow) (phone : PhoneNumber) :
    f.withConfirmStep.sendPlan phone = (f.sendPlan phone).mapFlow withConfirmStep := by
  simp only [sendPlan, mapFlow_recordStatus, Plan.mapFlow]
  refine congrArg (recordStatus f.sending) (congrArg (Plan.shows f.sending.view) ?_)
  refine congrArg (Plan.asks _) (funext fun answer => ?_)
  cases answer with
  | ok dispatch =>
      dsimp only
      rw [mapFlow_recordStatus]
      rfl
  | error failure => rfl

theorem verifyPlan_withConfirmStep (f : Flow) (reply : Reply) (phone : PhoneNumber)
    (raw : String) :
    f.withConfirmStep.verifyPlan reply phone raw =
      (f.verifyPlan reply phone raw).mapFlow withConfirmStep := by
  simp only [verifyPlan, mapFlow_recordStatus, Plan.mapFlow]
  refine congrArg (recordStatus (f.verifying raw)) (congrArg (Plan.shows (f.verifying raw).view) ?_)
  refine congrArg (Plan.asks _) (funext fun answer => ?_)
  cases answer with
  | ok token => rfl
  | error failure => rfl

theorem stepPlan_withConfirmStep {step : Step} {action : String} {p q : Plan}
    (h : p = q.mapFlow withConfirmStep) :
    f.withConfirmStep.stepPlan step action p =
      (f.stepPlan step action q).mapFlow withConfirmStep := by
  subst h
  by_cases hstep : f.step = step
  · simp [stepPlan, hstep, withConfirmStep]
  · simp [stepPlan, hstep, withConfirmStep, notAllowed, Plan.mapFlow]

theorem numberPlan_withConfirmStep {action : String} {p q : PhoneNumber → Plan}
    (h : ∀ phone, p phone = (q phone).mapFlow withConfirmStep) :
    f.withConfirmStep.numberPlan action p =
      (f.numberPlan action q).mapFlow withConfirmStep := by
  cases hphone : f.phone with
  | some phone => simp [numberPlan, withConfirmStep, hphone, h]
  | none => simp [numberPlan, withConfirmStep, hphone, notAllowed, Plan.mapFlow]

/-- No operation but the entering of a number depends on whether numbers are confirmed. -/
theorem plan_withConfirmStep (f : Flow) {op : Operation} (hop : ∀ raw, op ≠ .submitPhone raw) :
    f.withConfirmStep.plan op = (f.plan op).mapFlow withConfirmStep := by
  cases op with
  | submitPhone raw => exact absurd rfl (hop raw)
  | confirm =>
      exact stepPlan_withConfirmStep (numberPlan_withConfirmStep f.sendPlan_withConfirmStep)
  | submitCode raw =>
      refine stepPlan_withConfirmStep (numberPlan_withConfirmStep fun phone => ?_)
      by_cases hraw : Text.isBlankText raw = true
      · simp only [codePlan, hraw, if_true]
        rfl
      · simp only [codePlan, hraw]
        exact f.verifyPlan_withConfirmStep .done phone raw
  | openLink text =>
      cases hlink : VerifyLink.parse? text with
      | none => simp only [plan, hlink, linkPlan, Plan.mapFlow]
      | some link =>
          simp only [plan, hlink, linkPlan]
          exact congrArg _ (congrArg _ ((f.resumed link).verifyPlan_withConfirmStep _ _ _))
  | back =>
      have hback : f.withConfirmStep.controls.back = f.controls.back := rfl
      simp only [plan, hback]
      cases f.controls.back with
      | navigate step =>
          have hwent : f.withConfirmStep.wentTo step = (f.wentTo step).withConfirmStep := by
            by_cases hstep : step = .phone
            · simp only [wentTo, hstep, if_true]
              rfl
            · simp only [wentTo, hstep, if_false]
              rfl
          simp only [backPlan, hwent]
          rfl
      | history => rfl
      | hidden => rfl
  | restart => rfl
  | observe name => rfl

/-! ## Turns that correspond -/

/-- The same world, but with a confirmation step. -/
def World.withConfirmStep (w : World σ) : World σ :=
  ⟨w.flow.withConfirmStep, w.services⟩

/-- The turn of an operation, and those of the operation and a confirmation of the number that it got
accepted, if it did, come to the same. -/
def Corresponds (s : Services σ) (op : Operation) (w : World σ) : Prop :=
  (turn s op w).Matches (turns s (turn s op w).confirmed w.withConfirmStep) ∧
    worldAfter s (turn s op w).confirmed w.withConfirmStep =
      ((perform s op).run w).world.withConfirmStep

/-- After the answer to the request to send a code. -/
def answered (f : Flow) : Except ApiFailure SmsDispatch → Flow
  | .ok dispatch => f.sending.sent dispatch
  | .error failure => f.sending.unsent failure

/-- A record of the status changes nothing but the log. -/
theorem follow_recordStatus (f : Flow) (p : Plan) (s : Services σ) (observer : Option String)
    (v : σ) :
    Event.exchanges ((f.recordStatus p).follow s observer v).events =
        Event.exchanges (p.follow s observer v).events ∧
      ((f.recordStatus p).follow s observer v).value = (p.follow s observer v).value ∧
      ((f.recordStatus p).follow s observer v).world = (p.follow s observer v).world := by
  unfold recordStatus
  split
  · exact ⟨rfl, rfl, rfl⟩
  · exact ⟨rfl, rfl, rfl⟩

/-- To send a code is one question, and its answer decides what becomes of the flow. -/
theorem follow_sendPlan (f : Flow) (phone : PhoneNumber) (s : Services σ)
    (observer : Option String) (v : σ) :
    Event.exchanges ((f.sendPlan phone).follow s observer v).events =
        [.send phone f.config.locale ((s.sendCode phone f.config.locale).run v).value] ∧
      ((f.sendPlan phone).follow s observer v).value = .done ∧
      ((f.sendPlan phone).follow s observer v).world =
        ⟨f.answered ((s.sendCode phone f.config.locale).run v).value,
          ((s.sendCode phone f.config.locale).run v).world⟩ := by
  unfold sendPlan
  obtain ⟨hevents, hvalue, hworld⟩ := follow_recordStatus f.sending _ s observer v
  rw [hevents, hvalue, hworld]
  cases ha : ((s.sendCode phone f.config.locale).run v).value with
  | ok dispatch =>
      simp [Plan.follow, Services.answer, Question.exchange, follow_recordStatus, ha, answered]
  | error failure =>
      simp [Plan.follow, Services.answer, Question.exchange, follow_recordStatus, ha, answered]

/-- Where a code is sent from does not matter to what comes of it. -/
theorem answered_confirming (f : Flow) (answer : Except ApiFailure SmsDispatch) :
    f.withConfirmStep.confirming.answered answer = (f.answered answer).withConfirmStep := by
  cases answer with
  | ok dispatch => rfl
  | error failure => rfl

/-- The turns of operations that do the same correspond. -/
theorem corresponds_of_follow {s : Services σ} {op : Operation} {w : World σ}
    (haccept : (turn s op w).acceptsNumber = false)
    (h : (w.flow.withConfirmStep.plan op).follow s w.flow.observer w.services =
      ((w.flow.plan op).mapFlow withConfirmStep).follow s w.flow.observer w.services) :
    Corresponds s op w := by
  have hrun : (perform s op).run w.withConfirmStep =
      ⟨((perform s op).run w).value, ((perform s op).run w).events,
        ((perform s op).run w).world.withConfirmStep⟩ := by
    rw [perform_eq_follow, perform_eq_follow]
    exact h.trans (Plan.follow_mapFlow _ _ _ _ _)
  have hconfirmed : (turn s op w).confirmed = [op] := by
    rw [Turn.confirmed, haccept]
    rfl
  unfold Corresponds
  rw [hconfirmed, worldAfter_singleton, hrun]
  refine ⟨⟨?_, ?_, ?_, ?_⟩, rfl⟩
  · rw [hconfirmed]
    rfl
  · simp [turns, turn, hrun]
  · simp [turns, turn, hrun]
  · simp [turns, turn, hrun]
    rfl

/-- A number that is entered elsewhere, or that is refused, is not treated differently. -/
theorem corresponds_submitPhone_of_refused {s : Services σ} {raw : String} {w : World σ}
    (h : ∀ phone, w.flow.step = .phone → ((s.validate raw).run w.services).value ≠ .ok phone) :
    Corresponds s (.submitPhone raw) w := by
  by_cases hstep : w.flow.step = .phone
  · cases ha : ((s.validate raw).run w.services).value with
    | ok phone => exact absurd ha (h phone hstep)
    | error rejection =>
        refine corresponds_of_follow ?_ ?_
        · simp [turn, Turn.acceptsNumber, perform_eq_follow, plan, stepPlan, hstep, Plan.follow,
            Services.answer, ha, Question.exchange, Exchange.isAcceptance, follow_recordStatus]
        · have hstep' : w.flow.withConfirmStep.step = .phone := hstep
          simp only [plan, stepPlan, hstep, hstep', if_true, Plan.follow, Plan.mapFlow,
            Services.answer, ha, mapFlow_recordStatus]
          rfl
  · refine corresponds_of_follow ?_ ?_
    · simp [turn, Turn.acceptsNumber, hstep]
    · have hstep' : w.flow.withConfirmStep.step ≠ .phone := hstep
      simp only [plan, stepPlan, hstep, hstep', if_false]
      rfl

/-- What an accepted number comes to is decided after its validation. -/
theorem perform_submitPhone_of_accepted {s : Services σ} {raw : String} {phone : PhoneNumber}
    {w : World σ} (hstep : w.flow.step = .phone)
    (ha : ((s.validate raw).run w.services).value = .ok phone) :
    let o := (perform s (.submitPhone raw)).run w
    let rest := ((w.flow.numbered raw phone).acceptPlan phone).follow s w.flow.observer
      ((s.validate raw).run w.services).world
    Event.exchanges o.events = .validate raw (.ok phone) :: Event.exchanges rest.events ∧
      o.value = rest.value ∧ o.world = rest.world := by
  simp [perform_eq_follow, plan, stepPlan, hstep, Plan.follow, Services.answer, ha,
    Question.exchange]

/-- With a confirmation step, an accepted number waits. -/
theorem perform_submitPhone_of_waiting {s : Services σ} {raw : String} {phone : PhoneNumber}
    {w : World σ} (hstep : w.flow.step = .phone)
    (ha : ((s.validate raw).run w.services).value = .ok phone) :
    let o := (perform s (.submitPhone raw)).run w.withConfirmStep
    Event.exchanges o.events = [.validate raw (.ok phone)] ∧ o.value = .done ∧
      o.world = ⟨(w.flow.numbered raw phone).withConfirmStep.confirming,
        ((s.validate raw).run w.services).world⟩ := by
  obtain ⟨hxs, hreply, hworld⟩ :=
    perform_submitPhone_of_accepted (s := s) (w := w.withConfirmStep) hstep ha
  have haccept : (w.withConfirmStep.flow.numbered raw phone).acceptPlan phone =
      (w.flow.numbered raw phone).withConfirmStep.confirming.recordStep
        ((w.flow.numbered raw phone).withConfirmStep.confirming.showing .done) :=
    if_pos rfl
  rw [haccept] at hxs hreply hworld
  refine ⟨?_, hreply, hworld⟩
  rw [hxs]
  simp

/-- Without a confirmation step, a code is sent to an accepted number. -/
theorem perform_submitPhone_of_sending {s : Services σ} {raw : String} {phone : PhoneNumber}
    {w : World σ} (hskip : w.flow.config.confirmStep = false) (hstep : w.flow.step = .phone)
    (ha : ((s.validate raw).run w.services).value = .ok phone) :
    let o := (perform s (.submitPhone raw)).run w
    let a := (s.sendCode phone w.flow.config.locale).run ((s.validate raw).run w.services).world
    Event.exchanges o.events =
        [.validate raw (.ok phone), .send phone w.flow.config.locale a.value] ∧
      o.value = .done ∧ o.world = ⟨(w.flow.numbered raw phone).answered a.value, a.world⟩ := by
  obtain ⟨hxs, hreply, hworld⟩ := perform_submitPhone_of_accepted (s := s) hstep ha
  obtain ⟨hxs', hreply', hworld'⟩ := follow_sendPlan (w.flow.numbered raw phone) phone s
    w.flow.observer ((s.validate raw).run w.services).world
  have haccept : (w.flow.numbered raw phone).acceptPlan phone =
      (w.flow.numbered raw phone).sendPlan phone :=
    if_neg (by simp [numbered, hskip])
  rw [haccept] at hxs hreply hworld
  rw [hxs'] at hxs
  exact ⟨hxs, hreply.trans hreply', hworld.trans hworld'⟩

/-- A number that waits is confirmed by sending a code to it. Where the code is sent from does not
matter to what comes of it. -/
theorem perform_confirm_of_waiting (s : Services σ) (f : Flow) (phone : PhoneNumber)
    (hphone : f.phone = some phone) (v : σ) :
    let o := (perform s .confirm).run ⟨f.withConfirmStep.confirming, v⟩
    let a := (s.sendCode phone f.config.locale).run v
    Event.exchanges o.events = [.send phone f.config.locale a.value] ∧ o.value = .done ∧
      o.world = ⟨(f.answered a.value).withConfirmStep, a.world⟩ := by
  have hplan : f.withConfirmStep.confirming.plan .confirm =
      f.withConfirmStep.confirming.sendPlan phone := by
    simp [plan, stepPlan, numberPlan, confirming, withConfirmStep, entering, hphone]
  obtain ⟨hxs, hreply, hworld⟩ :=
    follow_sendPlan f.withConfirmStep.confirming phone s f.observer v
  rw [answered_confirming] at hworld
  simp only [perform_eq_follow, hplan]
  exact ⟨hxs, hreply, hworld⟩

/-- An accepted number is confirmed, and the code is sent from there. -/
theorem corresponds_submitPhone_of_accepted {s : Services σ} {raw : String} {phone : PhoneNumber}
    {w : World σ} (hskip : w.flow.config.confirmStep = false) (hstep : w.flow.step = .phone)
    (ha : ((s.validate raw).run w.services).value = .ok phone) :
    Corresponds s (.submitPhone raw) w := by
  obtain ⟨hxs, hreply, hworld⟩ := perform_submitPhone_of_sending (s := s) hskip hstep ha
  obtain ⟨hys, hkept, hwaits⟩ := perform_submitPhone_of_waiting (s := s) hstep ha
  obtain ⟨hzs, -, hafter⟩ := perform_confirm_of_waiting s (w.flow.numbered raw phone) phone rfl
    ((s.validate raw).run w.services).world
  rw [← hwaits] at hzs hafter
  have hconfirmed : (turn s (.submitPhone raw) w).confirmed = [.submitPhone raw, .confirm] := by
    simp [Turn.confirmed, turn, Turn.acceptsNumber, hstep, hxs, Exchange.isAcceptance]
  have hsame : ((perform s .confirm).run
      ((perform s (.submitPhone raw)).run w.withConfirmStep).world).world =
        ((perform s (.submitPhone raw)).run w).world.withConfirmStep := by
    rw [hafter, hworld]
    rfl
  unfold Corresponds
  rw [hconfirmed, worldAfter_cons, worldAfter_singleton]
  refine ⟨⟨?_, ?_, ?_, ?_⟩, hsame⟩
  · rw [hconfirmed]
    rfl
  · simp [turns, turn, hxs, hys, hzs, numbered]
  · simp [turns, turn, hreply, hkept]
  · simp [turns, turn, hsame]
    rfl

/-- Without a confirmation step, every operation corresponds to itself confirmed at once. -/
theorem corresponds_perform (s : Services σ) (op : Operation) (w : World σ)
    (hskip : w.flow.config.confirmStep = false) : Corresponds s op w := by
  by_cases hop : ∃ raw, op = .submitPhone raw
  · obtain ⟨raw, rfl⟩ := hop
    by_cases haccept : ∃ phone, w.flow.step = .phone ∧
        ((s.validate raw).run w.services).value = .ok phone
    · obtain ⟨phone, hstep, ha⟩ := haccept
      exact corresponds_submitPhone_of_accepted hskip hstep ha
    · exact corresponds_submitPhone_of_refused fun phone hstep ha => haccept ⟨phone, hstep, ha⟩
  · have hother : ∀ raw, op ≠ .submitPhone raw := fun raw h => hop ⟨raw, h⟩
    refine corresponds_of_follow ?_ (by rw [plan_withConfirmStep _ hother])
    cases op with
    | submitPhone raw => exact absurd rfl (hother raw)
    | _ => rfl

/-- A run corresponds, turn by turn, to the run in which every accepted number is confirmed. -/
theorem matches_turns (s : Services σ) (ops : List Operation) (w : World σ)
    (hskip : w.flow.config.confirmStep = false) :
    ∃ groups, turns s ((turns s ops w).flatMap Turn.confirmed) w.withConfirmStep =
        groups.flatten ∧
      List.Forall₂ Turn.Matches (turns s ops w) groups := by
  induction ops generalizing w with
  | nil => exact ⟨[], rfl, .nil⟩
  | cons op ops ih =>
      obtain ⟨hmatches, hworld⟩ := corresponds_perform s op w hskip
      have hconfig := (path_turn s op w).kept.1
      obtain ⟨groups, hturns, hgroups⟩ := ih ((perform s op).run w).world
        ((congrArg Config.confirmStep hconfig).trans hskip)
      refine ⟨turns s (turn s op w).confirmed w.withConfirmStep :: groups, ?_,
        .cons hmatches hgroups⟩
      rw [turns, List.flatMap_cons, turns_append_list, hworld, hturns, List.flatten_cons]

/-- Turns that correspond have asked the same. -/
theorem flatMap_asked_eq {ts : List Turn} {groups : List (List Turn)}
    (h : List.Forall₂ Turn.Matches ts groups) :
    groups.flatten.flatMap Turn.asked = ts.flatMap Turn.asked := by
  induction h with
  | nil => rfl
  | cons hmatches hrest ih =>
      rw [List.flatten_cons, List.flatMap_append, List.flatMap_cons, hmatches.asked, ih]

/-- A run without a confirmation step, and the run with one in which a confirmation follows every
accepted number, ask the same, reply the same, and have the same flow after every operation. -/
theorem confirmed_at_once (s : Services σ) (c : Config) (v : σ) (ops : List Operation) :
    let ts := turns s ops (opened { c with confirmStep := false } v)
    let w := opened { c with confirmStep := true } v
    (∃ groups, turns s (ts.flatMap Turn.confirmed) w = groups.flatten ∧
      List.Forall₂ Turn.Matches ts groups) ∧
    Event.exchanges ((performAll s (ts.flatMap Turn.confirmed)).run w).events =
      Event.exchanges
        ((performAll s ops).run (opened { c with confirmStep := false } v)).events := by
  intro ts w
  obtain ⟨groups, hturns, hgroups⟩ :=
    matches_turns s ops (opened { c with confirmStep := false } v) rfl
  have hw : w = (opened { c with confirmStep := false } v).withConfirmStep := rfl
  rw [← hw] at hturns
  refine ⟨⟨groups, hturns, hgroups⟩, ?_⟩
  rw [← flatMap_asked_turns, ← flatMap_asked_turns, hturns]
  exact flatMap_asked_eq hgroups

end Flow

end PhoneVerification
