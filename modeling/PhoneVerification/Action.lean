/-!
# Actions

An action runs in a world: it gives a value, leaves a list of events behind, and changes the
world. `run_bind` says that the events of two actions in a row are those of the first followed by
those of the second.
-/

namespace PhoneVerification

/-- What came of an action. -/
structure Outcome (ε σ α : Type) where
  value : α
  events : List ε
  world : σ

/-- An action with events in `ε`, a world in `σ` and a value in `α`. -/
structure Action (ε σ α : Type) where
  run : σ → Outcome ε σ α

namespace Action

variable {ε δ κ σ α β : Type}

/-- Gives a value and does nothing. -/
def done (a : α) : Action ε σ α :=
  ⟨fun w => ⟨a, [], w⟩⟩

/-- One action after another. -/
def andThen (x : Action ε σ α) (f : α → Action ε σ β) : Action ε σ β :=
  ⟨fun w =>
    let first := x.run w
    let second := (f first.value).run first.world
    ⟨second.value, first.events ++ second.events, second.world⟩⟩

instance : Monad (Action ε σ) where
  pure := done
  bind := andThen

/-- Leaves one event behind. -/
def emit (e : ε) : Action ε σ Unit :=
  ⟨fun w => ⟨(), [e], w⟩⟩

/-- The same action with its events put in other words. -/
def mapEvents (f : ε → δ) (x : Action ε σ α) : Action δ σ α :=
  ⟨fun w => ⟨(x.run w).value, (x.run w).events.map f, (x.run w).world⟩⟩

/-- Repeats an action that fails, at most so many times after the first. Only some failures are waited
out, and each of them is announced. -/
def retry (announce? : κ → Option (Action ε σ Unit)) (x : Action ε σ (Except κ α)) :
    Nat → Action ε σ (Except κ α)
  | 0 => x
  | retries + 1 => do
    match ← x with
    | .ok a => return .ok a
    | .error failure =>
      match announce? failure with
      | none => return .error failure
      | some announcement =>
        announcement
        retry announce? x retries

@[simp] theorem run_pure (a : α) (w : σ) :
    (pure a : Action ε σ α).run w = ⟨a, [], w⟩ :=
  rfl

@[simp] theorem run_bind (x : Action ε σ α) (f : α → Action ε σ β) (w : σ) :
    (x >>= f).run w =
      ⟨((f (x.run w).value).run (x.run w).world).value,
        (x.run w).events ++ ((f (x.run w).value).run (x.run w).world).events,
        ((f (x.run w).value).run (x.run w).world).world⟩ :=
  rfl

@[simp] theorem run_emit (e : ε) (w : σ) : (emit e : Action ε σ Unit).run w = ⟨(), [e], w⟩ :=
  rfl

@[simp] theorem run_mapEvents (f : ε → δ) (x : Action ε σ α) (w : σ) :
    (x.mapEvents f).run w = ⟨(x.run w).value, (x.run w).events.map f, (x.run w).world⟩ :=
  rfl

end Action

end PhoneVerification
