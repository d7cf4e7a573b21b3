import PhoneVerification.Flow.Script
import PhoneVerification.Proofs.Flow.Display

/-!
# The observer is up to date

Views are published by hand, after each group of changes. Still no change of what is shown goes
unpublished: an operation either ends with the view that it publishes last, or publishes nothing and
leaves the view as it was. So whoever had the view on display when an observer was registered, or was
shown any view since, has the view on display after every operation.
-/

namespace PhoneVerification

/-- The observer that is registered last by some operations. -/
def lastObserver (ops : List Operation) : Option String :=
  (ops.filterMap Operation.observer?).getLast?

/-- What is published to an observer while the view changes: nothing, if it does not change, or views
for this observer alone, the last of which is the new one. -/
inductive UpToDate (name : String) (before after : View) : List (String × View) → Prop
  | silent (h : after = before) : UpToDate name before after []
  | shown {earlier : List (String × View)} (h : ∀ v ∈ earlier, v.1 = name) :
      UpToDate name before after (earlier ++ [(name, after)])

namespace Flow

variable {σ : Type} {s : Services σ} {w : World σ}

theorem lastObserver_append (ops : List Operation) (op : Operation) :
    lastObserver (ops ++ [op]) = op.observer?.or (lastObserver ops) := by
  cases h : op.observer? with
  | none => simp [lastObserver, List.filterMap_append, h]
  | some name => simp [lastObserver, List.filterMap_append, h]

theorem observer_worldAfter (s : Services σ) (c : Config) (v : σ) (ops : List Operation) :
    (worldAfter s ops (opened c v)).flow.observer = lastObserver ops := by
  induction ops using List.reverseRecOn with
  | nil => rfl
  | append_singleton ops op ih =>
      have hpath := path_turn s op (worldAfter s ops (opened c v))
      rw [worldAfter_append, lastObserver_append, ← ih]
      exact hpath.kept.2

/-- What an operation publishes keeps the observer up to date. -/
theorem upToDate_perform {name : String} (hobserver : w.flow.observer = some name)
    (op : Operation) :
    UpToDate name w.flow.view ((perform s op).run w).world.flow.view
      (Event.views ((perform s op).run w).events) := by
  have hend := ((watched_plan w.flow op).follow s name w.services).2
  have hviews := Plan.views_follow (w.flow.plan op) s name w.services
  rw [← hobserver, ← perform_eq_follow] at hend hviews
  cases h : (Event.views ((perform s op).run w).events).getLast? with
  | none =>
      have hsame : ((perform s op).run w).world.flow.view = w.flow.view := by
        rw [← hend, Event.display, h]
        rfl
      rw [List.getLast?_eq_none_iff.mp h]
      exact .silent hsame
  | some last =>
      have hlast : last.2 = ((perform s op).run w).world.flow.view := by
        rw [← hend, Event.display, h]
        rfl
      obtain ⟨earlier, hsplit⟩ := List.getLast?_eq_some_iff.mp h
      rw [hsplit] at hviews ⊢
      have hname : last.1 = name := hviews last (by simp)
      obtain rfl : last = (name, ((perform s op).run w).world.flow.view) := Prod.ext hname hlast
      exact .shown fun v hv => hviews v (List.mem_append_left _ hv)

/-- Whoever has the view on display has it on display after an operation. -/
theorem display_perform {name : String} (hobserver : w.flow.observer = some name)
    (op : Operation) :
    Event.display (some w.flow.view) ((perform s op).run w).events =
      some ((perform s op).run w).world.flow.view := by
  have h := upToDate_perform (s := s) hobserver op
  unfold Event.display
  generalize Event.views ((perform s op).run w).events = vs at h ⊢
  cases h with
  | silent h => simp [h]
  | shown h => simp

theorem observer_perform {name : String} (hobserver : w.flow.observer = some name)
    (op : Operation) : ∃ name, ((perform s op).run w).world.flow.observer = some name := by
  have h : ((perform s op).run w).world.flow.observer = op.observer?.or w.flow.observer :=
    (path_turn s op w).kept.2
  rw [h, hobserver]
  cases op.observer? with
  | none => exact ⟨name, rfl⟩
  | some other => exact ⟨other, rfl⟩

/-- Whoever has the view on display has it on display after any operations. -/
theorem display_performAll {name : String} (hobserver : w.flow.observer = some name)
    (ops : List Operation) :
    Event.display (some w.flow.view) ((performAll s ops).run w).events =
      some (worldAfter s ops w).flow.view := by
  induction ops generalizing w name with
  | nil => rfl
  | cons op ops ih =>
      obtain ⟨name', hobserver'⟩ := observer_perform (s := s) hobserver op
      have hevents : ((performAll s (op :: ops)).run w).events =
          ((perform s op).run w).events ++
            ((performAll s ops).run ((perform s op).run w).world).events := by
        simp [performAll]
      rw [hevents, Event.display_append, display_perform hobserver, ih hobserver',
        worldAfter_cons]

/-- Once an observer is registered, every operation keeps the one that was registered last up to date.
Hence whoever had the view on display then, or was shown any view since, has it on display. -/
theorem upToDate_of_observed (s : Services σ) (c : Config) (v : σ) (ops : List Operation)
    {name : String} (hobserver : lastObserver ops = some name) :
    let w := worldAfter s ops (opened c v)
    (∀ op, UpToDate name w.flow.view ((perform s op).run w).world.flow.view
      (Event.views ((perform s op).run w).events)) ∧
    ∀ later shown,
      shown = some w.flow.view ∨ Event.views ((performAll s later).run w).events ≠ [] →
      Event.display shown ((performAll s later).run w).events =
        some ((performAll s later).run w).world.flow.view := by
  intro w
  have hname : w.flow.observer = some name := (observer_worldAfter s c v ops).trans hobserver
  refine ⟨upToDate_perform hname, ?_⟩
  intro later shown hshown
  have hdisplay := display_performAll (s := s) hname later
  rcases hshown with rfl | hpublished
  · exact hdisplay
  · rw [Event.display_eq_of_views_ne_nil hpublished shown (some w.flow.view)]
    exact hdisplay

/-- A number waits to be confirmed, and the observer was replaced. -/
def replacedOnce : World Script :=
  worldAfter (.scripted .standard) [.observe "first", .submitPhone "0612345678", .observe "second"]
    (opened {} {})

/-- The second observer alone is shown the confirmation, and has the flow on display after it. -/
theorem upToDate_of_second_observer :
    (lastObserver [.observe "first", .submitPhone "0612345678", .observe "second"] =
        some "second" ∧
      UpToDate "second" replacedOnce.flow.view
        ((perform (.scripted .standard) .confirm).run replacedOnce).world.flow.view
        (Event.views ((perform (.scripted .standard) .confirm).run replacedOnce).events)) ∧
    (Event.views ((performAll (.scripted .standard) [.confirm, .back]).run replacedOnce).events).map
        (fun v => (v.1, v.2.step)) =
      [("second", .confirm), ("second", .token), ("second", .phone)] ∧
    Event.display none
        ((performAll (.scripted .standard) [.confirm, .back]).run replacedOnce).events =
      some ((performAll (.scripted .standard) [.confirm, .back]).run replacedOnce).world.flow.view := by
  have hlast : lastObserver [.observe "first", .submitPhone "0612345678", .observe "second"] =
      some "second" := rfl
  obtain ⟨hupToDate, hdisplay⟩ := upToDate_of_observed (.scripted .standard) {} {} _ hlast
  have hviews : (Event.views
      ((performAll (.scripted .standard) [.confirm, .back]).run replacedOnce).events).map
        (fun v => (v.1, v.2.step)) =
      [("second", .confirm), ("second", .token), ("second", .phone)] := by decide +kernel
  refine ⟨⟨hlast, hupToDate .confirm⟩, hviews, hdisplay _ none (.inr ?_)⟩
  intro hnone
  have hempty := congrArg (List.map fun v : String × View => (v.1, v.2.step)) hnone
  exact absurd (hviews.symm.trans hempty) (by simp)

end Flow

end PhoneVerification
