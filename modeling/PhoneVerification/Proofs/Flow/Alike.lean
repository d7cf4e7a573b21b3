import PhoneVerification.Proofs.Flow.History

/-!
# Runs that look alike

Two outcomes are alike if they differ in nothing but to whom the views are shown. Plans that are
the same up to the observer, followed with services that answer alike, have outcomes alike.

## Implementation notes

The services of the two sides may be different and may have different pasts. All that is asked of
them is a relation between their worlds that every question keeps, with the same answer on both
sides. What they leave behind besides their answers is not compared.
-/

namespace PhoneVerification

/-- What can be seen of an operation: a question with its answer, or a view. -/
inductive Sight
  | asked (x : Exchange)
  | shown (v : View)

/-- A sight as the events it is before an observer. -/
def Sight.before (observer : Option String) : Sight → List Event
  | asked x => [.exchange x]
  | shown v => Plan.shownTo observer v

namespace Event

/-- Whether an event is a question or a view. -/
def isSeen : Event → Bool
  | .exchange _ | .view _ _ => true
  | .effect _ => false

/-- The questions and the views among some events, in their order. -/
def seen (es : List Event) : List Event :=
  es.filter isSeen

@[simp] theorem seen_nil : seen [] = [] :=
  rfl

@[simp] theorem seen_append (es fs : List Event) : seen (es ++ fs) = seen es ++ seen fs :=
  List.filter_append es fs

@[simp] theorem seen_exchange (x : Exchange) (es : List Event) :
    seen (.exchange x :: es) = .exchange x :: seen es :=
  rfl

@[simp] theorem seen_effect (e : Effect) (es : List Event) : seen (.effect e :: es) = seen es :=
  rfl

@[simp] theorem seen_effects (es : List Effect) : seen (es.map .effect) = [] := by
  simp [seen, isSeen]

@[simp] theorem seen_shownTo (observer : Option String) (v : View) :
    seen (Plan.shownTo observer v) = Plan.shownTo observer v := by
  cases observer <;> rfl

end Event

/-- Services that answer alike: from related worlds, every question gets the same answer and leads
to related worlds. -/
structure AnswersAlike {σ τ : Type} (R : σ → τ → Prop) (s : Services σ) (t : Services τ) :
    Prop where
  value {α : Type} (question : Question α) {v : σ} {u : τ} (h : R v u) :
    ((s.answer question).run v).value = ((t.answer question).run u).value
  world {α : Type} (question : Question α) {v : σ} {u : τ} (h : R v u) :
    R ((s.answer question).run v).world ((t.answer question).run u).world

theorem AnswersAlike.refl {σ : Type} (s : Services σ) : AnswersAlike Eq s s where
  value question v u h := by rw [h]
  world question v u h := by rw [h]

namespace Flow

/-- The flow before another observer. -/
def watchedBy (f : Flow) (observer : Option String) : Flow :=
  { f with observer }

/-- Outcomes that differ in nothing but the observers. -/
structure Alike {σ τ : Type} (R : σ → τ → Prop) (o p : Option String)
    (x : Outcome Event (World σ) Reply) (y : Outcome Event (World τ) Reply) : Prop where
  reply : x.value = y.value
  sights : ∃ sights : List Sight, Event.seen x.events = sights.flatMap (Sight.before o) ∧
    Event.seen y.events = sights.flatMap (Sight.before p)
  observer : x.world.flow.observer = o
  flow : y.world.flow = x.world.flow.watchedBy p
  services : R x.world.services y.world.services

end Flow

namespace Plan

/-- Plans that are the same up to the observer of the flow that they end with. -/
inductive Same (o p : Option String) : Plan → Plan → Prop
  | ends (reply : Reply) {f g : Flow} (hf : f.observer = o) (hg : g = f.watchedBy p) :
      Same o p (.ends reply f) (.ends reply g)
  | notes (record : Log.Record) {a b : Plan} (h : Same o p a b) :
      Same o p (.notes record a) (.notes record b)
  | shows {v w : View} (hview : v = w) {a b : Plan} (h : Same o p a b) :
      Same o p (.shows v a) (.shows w b)
  | asks {α : Type} (question : Question α) {a b : α → Plan} (h : ∀ x, Same o p (a x) (b x)) :
      Same o p (.asks question a) (.asks question b)

end Plan

namespace Flow.Alike

variable {σ τ α : Type} {R : σ → τ → Prop} {s : Services σ} {t : Services τ}
  {o p : Option String} {v : σ} {u : τ}

/-- Outcomes are alike if what follows the answer to their first question is. -/
theorem asks (hanswers : AnswersAlike R s t) (question : Question α) (hR : R v u)
    {a b : α → Plan}
    (h : R ((s.answer question).run v).world ((t.answer question).run u).world →
      Alike R o p
        ((a ((s.answer question).run v).value).follow s o ((s.answer question).run v).world)
        ((b ((s.answer question).run v).value).follow t p ((t.answer question).run u).world)) :
    Alike R o p ((Plan.asks question a).follow s o v) ((Plan.asks question b).follow t p u) := by
  have hvalue := hanswers.value question hR
  have hnext := h (hanswers.world question hR)
  obtain ⟨sights, hx, hy⟩ := hnext.sights
  simp only [Plan.follow, ← hvalue]
  refine ⟨hnext.reply, ?_, hnext.observer, hnext.flow, hnext.services⟩
  refine ⟨.asked (question.exchange ((s.answer question).run v).value) :: sights, ?_, ?_⟩
  · simp [hx, Sight.before]
  · simp [hy, Sight.before]

end Flow.Alike

/-- The same plan, followed before two observers with services that answer alike. -/
theorem Plan.Same.follow {σ τ : Type} {R : σ → τ → Prop} {s : Services σ} {t : Services τ}
    {o p : Option String} {a b : Plan} (h : Same o p a b) (hanswers : AnswersAlike R s t)
    {v : σ} {u : τ} (hR : R v u) : Flow.Alike R o p (a.follow s o v) (b.follow t p u) := by
  induction h generalizing v u with
  | ends reply hf hg => exact ⟨rfl, ⟨[], rfl, rfl⟩, hf, hg, hR⟩
  | notes record h ih =>
      obtain ⟨hreply, hsights, hobserver, hflow, hservices⟩ := ih hR
      exact ⟨hreply, by simpa [Plan.follow] using hsights, hobserver, hflow, hservices⟩
  | @shows view _ hview _ _ h ih =>
      subst hview
      obtain ⟨hreply, ⟨sights, hx, hy⟩, hobserver, hflow, hservices⟩ := ih hR
      refine ⟨hreply, ⟨.shown view :: sights, ?_, ?_⟩, hobserver, hflow, hservices⟩
      · simp [Plan.follow, hx, Sight.before]
      · simp [Plan.follow, hy, Sight.before]
  | asks question h ih => exact Flow.Alike.asks hanswers question hR fun hnext => ih _ hnext

end PhoneVerification
