import PhoneVerification.Flow.Run
import Mathlib.Data.List.Basic

/-!
# Plans

A plan is what an operation does, told without the services: it leaves records, shows views, asks
questions, and goes on as the answers say. Following a plan with some services gives an outcome.
What holds at the end of every path of a plan holds of its outcome (`Plan.Always.follow`).

## Implementation notes

The flow at the end of a plan carries the observer, but the views of a plan are not addressed. The
observer is an input of `follow`, so that plans can be compared across observers.
-/

namespace PhoneVerification

/-- A question to one of the services, by the type of its answer. -/
inductive Question : Type → Type
  | validate (raw : String) : Question (Except PhoneRejection PhoneNumber)
  | send (phone : PhoneNumber) (locale : Locale) : Question (Except ApiFailure SmsDispatch)
  | verify (phone : PhoneNumber) (code : VerificationCode) :
      Question (Except ApiFailure SessionToken)
  | issue (token : SessionToken) (options : IssuanceOptions) : Question IssuanceOutcome

/-- The question together with its answer. -/
def Question.exchange {α : Type} : Question α → α → Exchange
  | validate raw => .validate raw
  | send phone locale => .send phone locale
  | verify phone code => .verify phone code
  | issue token options => .issue token options

/-- The services answer a question. -/
def Services.answer {σ α : Type} (s : Services σ) : Question α → Action Effect σ α
  | .validate raw => s.validate raw
  | .send phone locale => s.sendCode phone locale
  | .verify phone code => s.verifyCode phone code
  | .issue token options => s.issue token options

/-- What an operation does, as far as the services do not decide it. -/
inductive Plan : Type 1
  | ends (reply : Reply) (flow : Flow)
  | notes (record : Log.Record) (next : Plan)
  | shows (view : View) (next : Plan)
  | asks {α : Type} (question : Question α) (next : α → Plan)

namespace Event

/-- The question of an event with its answer, if the event is one. -/
def exchange? : Event → Option Exchange
  | .exchange x => some x
  | .effect _ | .view _ _ => none

/-- The questions among some events, each with its answer, in their order. -/
def exchanges (es : List Event) : List Exchange :=
  es.filterMap exchange?

@[simp] theorem exchanges_nil : exchanges [] = [] :=
  rfl

@[simp] theorem exchanges_append (es fs : List Event) :
    exchanges (es ++ fs) = exchanges es ++ exchanges fs :=
  List.filterMap_append

@[simp] theorem exchanges_exchange (x : Exchange) (es : List Event) :
    exchanges (.exchange x :: es) = x :: exchanges es :=
  rfl

@[simp] theorem exchanges_effect (e : Effect) (es : List Event) :
    exchanges (.effect e :: es) = exchanges es :=
  rfl

@[simp] theorem exchanges_effects (es : List Effect) : exchanges (es.map .effect) = [] := by
  simp [exchanges, List.filterMap_map, Function.comp_def, exchange?]

theorem mem_exchanges {es : List Event} {x : Exchange} (h : x ∈ exchanges es) :
    .exchange x ∈ es := by
  obtain ⟨e, he, hx⟩ := List.mem_filterMap.mp h
  cases e with
  | exchange y =>
      obtain rfl := Option.some.inj hx
      exact he
  | effect e => cases hx
  | view name v => cases hx

end Event

namespace Plan

variable {σ : Type}

/-- A view as the observer of this name sees it. -/
def shownTo (observer : Option String) (v : View) : List Event :=
  observer.toList.map fun name => .view name v

@[simp] theorem exchanges_shownTo (observer : Option String) (v : View) :
    Event.exchanges (shownTo observer v) = [] := by
  cases observer <;> rfl

/-- Carries out a plan before an observer. -/
def follow (s : Services σ) (observer : Option String) :
    Plan → σ → Outcome Event (Flow.World σ) Reply
  | ends reply flow, v => ⟨reply, [], ⟨flow, v⟩⟩
  | notes record next, v =>
    let rest := next.follow s observer v
    ⟨rest.value, .effect (.log record) :: rest.events, rest.world⟩
  | shows view next, v =>
    let rest := next.follow s observer v
    ⟨rest.value, shownTo observer view ++ rest.events, rest.world⟩
  | asks question next, v =>
    let answered := (s.answer question).run v
    let rest := (next answered.value).follow s observer answered.world
    ⟨rest.value, answered.events.map .effect ++
      .exchange (question.exchange answered.value) :: rest.events, rest.world⟩

/-- Whatever the answers are, `Q` holds of the questions, the reply and the flow at the end. -/
def Always (Q : List Exchange → Reply → Flow → Prop) : Plan → Prop
  | ends reply flow => Q [] reply flow
  | notes _ next => next.Always Q
  | shows _ next => next.Always Q
  | asks question next => ∀ a, (next a).Always fun xs => Q (question.exchange a :: xs)

/-- What always holds at the end of a plan holds of the outcome of following it. -/
theorem Always.follow {Q : List Exchange → Reply → Flow → Prop} {p : Plan} (h : p.Always Q)
    (s : Services σ) (observer : Option String) (v : σ) :
    Q (Event.exchanges (p.follow s observer v).events) (p.follow s observer v).value
      (p.follow s observer v).world.flow := by
  induction p generalizing Q v with
  | ends reply flow => exact h
  | notes record next ih => exact ih h v
  | shows view next ih => simpa [Plan.follow] using ih h v
  | asks question next ih =>
      have hnext := ih _ (h ((s.answer question).run v).value) ((s.answer question).run v).world
      simpa [Plan.follow] using hnext

end Plan

end PhoneVerification
