import PhoneVerification.Proofs.Flow.Path

/-!
# The history of a run

A turn is one operation of a run with the flow it met, what it asked, its reply and the flow it
left. What holds of a new flow and is kept by the plan of every operation holds of every history
(`turns_induction`); no property of runs needs an induction of its own.
-/

namespace PhoneVerification

/-- Every member of a list stands in a relation to the members before it. -/
def Each {α : Type} (P : List α → α → Prop) (xs : List α) : Prop :=
  ∀ pre x post, xs = pre ++ x :: post → P pre x

namespace Each

variable {α : Type} {P : List α → α → Prop} {xs ys : List α}

theorem nil : Each P [] := by
  intro pre x post h
  simp at h

/-- The members of a longer list stand in the relation if the new ones do. -/
theorem append (hxs : Each P xs) (hys : Each (fun pre y => P (xs ++ pre) y) ys) :
    Each P (xs ++ ys) := by
  intro pre x post h
  rcases List.append_eq_append_iff.mp h with ⟨as, rfl, hy⟩ | ⟨bs, hx, hb⟩
  · exact hys as x post hy
  · cases bs with
    | nil =>
        obtain rfl : xs = pre := by simpa using hx
        have hP := hys [] x post hb.symm
        simpa using hP
    | cons b bs =>
        obtain ⟨rfl, -⟩ := List.cons.inj hb
        exact hxs pre _ bs hx

theorem cons {x : α} (hx : P [] x) (hys : Each (fun pre y => P (x :: pre) y) ys) :
    Each P (x :: ys) := by
  have hfirst : Each P [x] := by
    intro pre y post h
    rcases List.singleton_eq_append_iff.mp h with ⟨rfl, hy⟩ | ⟨-, hy⟩
    · obtain ⟨rfl, -⟩ := List.cons.inj hy
      exact hx
    · cases hy
  rw [← List.singleton_append]
  exact hfirst.append hys

theorem singleton {x : α} (hx : P [] x) : Each P [x] :=
  cons hx nil

end Each

/-- One operation of a run. -/
structure Turn where
  operation : Operation
  before : Flow
  asked : List Exchange
  reply : Reply
  after : Flow

namespace Flow

variable {σ : Type}

/-- A flow as it is opened, with the services as they are. -/
def opened (c : Config) (v : σ) : World σ :=
  (begin.run ⟨start c, v⟩).world

@[simp] theorem opened_flow (c : Config) (v : σ) : (opened c v).flow = start c :=
  rfl

/-- Where some operations lead. -/
def worldAfter (s : Services σ) (ops : List Operation) (w : World σ) : World σ :=
  ((performAll s ops).run w).world

/-- The turn of one operation. -/
def turn (s : Services σ) (op : Operation) (w : World σ) : Turn :=
  let o := (perform s op).run w
  ⟨op, w.flow, Event.exchanges o.events, o.value, o.world.flow⟩

/-- The turns of some operations, one after the other. -/
def turns (s : Services σ) : List Operation → World σ → List Turn
  | [], _ => []
  | op :: ops, w => turn s op w :: turns s ops ((perform s op).run w).world

theorem worldAfter_cons (s : Services σ) (op : Operation) (ops : List Operation) (w : World σ) :
    worldAfter s (op :: ops) w = worldAfter s ops ((perform s op).run w).world := by
  simp [worldAfter, performAll]

theorem worldAfter_singleton (s : Services σ) (op : Operation) (w : World σ) :
    worldAfter s [op] w = ((perform s op).run w).world := by
  rw [worldAfter_cons]
  rfl

theorem worldAfter_append (s : Services σ) (ops : List Operation) (op : Operation)
    (w : World σ) :
    worldAfter s (ops ++ [op]) w = ((perform s op).run (worldAfter s ops w)).world := by
  induction ops generalizing w with
  | nil => simp [worldAfter, performAll]
  | cons first ops ih => rw [List.cons_append, worldAfter_cons, worldAfter_cons, ih]

/-- The turns of two runs, one after the other. -/
theorem turns_append_list (s : Services σ) (ops later : List Operation) (w : World σ) :
    turns s (ops ++ later) w = turns s ops w ++ turns s later (worldAfter s ops w) := by
  induction ops generalizing w with
  | nil => rfl
  | cons op ops ih => rw [List.cons_append, turns, turns, ih, worldAfter_cons, List.cons_append]

theorem turns_append (s : Services σ) (ops : List Operation) (op : Operation) (w : World σ) :
    turns s (ops ++ [op]) w = turns s ops w ++ [turn s op (worldAfter s ops w)] :=
  turns_append_list s ops [op] w

/-- Every operation of a run is one of its turns. -/
theorem turn_mem_turns (s : Services σ) (ops later : List Operation) (op : Operation)
    (w : World σ) : turn s op (worldAfter s ops w) ∈ turns s (ops ++ op :: later) w := by
  induction ops generalizing w with
  | nil => exact List.mem_cons_self
  | cons first ops ih =>
      rw [worldAfter_cons, List.cons_append, turns]
      exact List.mem_cons_of_mem _ (ih _)

/-- The questions of a run are those of its turns. -/
theorem flatMap_asked_turns (s : Services σ) (ops : List Operation) (w : World σ) :
    (turns s ops w).flatMap Turn.asked = Event.exchanges ((performAll s ops).run w).events := by
  induction ops generalizing w with
  | nil => rfl
  | cons op ops ih => simp [turns, turn, performAll, ih]

/-- A turn takes a path of its operation. -/
theorem path_turn (s : Services σ) (op : Operation) (w : World σ) :
    Path w.flow op (turn s op w).asked (turn s op w).reply (turn s op w).after := by
  simp only [turn, perform_eq_follow]
  exact (always_path w.flow op).follow s w.flow.observer w.services

/-- What holds of a new flow without a history, and is kept by every turn, holds of every run. -/
theorem turns_induction {P : List Turn → Flow → Prop} {c : Config} (hstart : P [] (start c))
    (hturn : ∀ ts f op xs reply g, P ts f → Path f op xs reply g →
      P (ts ++ [⟨op, f, xs, reply, g⟩]) g)
    (s : Services σ) (v : σ) (ops : List Operation) :
    P (turns s ops (opened c v)) (worldAfter s ops (opened c v)).flow := by
  induction ops using List.reverseRecOn with
  | nil => exact hstart
  | append_singleton ops op ih =>
      rw [turns_append, worldAfter_append]
      exact hturn _ _ _ _ _ _ ih (path_turn s op (worldAfter s ops (opened c v)))

end Flow

end PhoneVerification
