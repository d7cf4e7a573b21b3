import PhoneVerification.Action
import Mathlib.Data.List.Forall2

/-!
# Actions side by side

Two actions are coupled if, from related worlds, they give related values, lead to related worlds,
and look the same to someone who sees only a part of each event. Properties of two runs are put
together from the couplings of their parts.
-/

namespace PhoneVerification

/-- The same error on both sides, or values in a relation. -/
inductive Agree {κ α β : Type} (V : α → β → Prop) : Except κ α → Except κ β → Prop
  | ok {a : α} {b : β} (h : V a b) : Agree V (.ok a) (.ok b)
  | error (e : κ) : Agree V (.error e) (.error e)

theorem Agree.refl {κ α : Type} {V : α → α → Prop} (hV : ∀ a, V a a) (x : Except κ α) :
    Agree V x x := by
  cases x with
  | ok a => exact .ok (hV a)
  | error e => exact .error e

theorem Agree.eq {κ α : Type} {x y : Except κ α} (h : Agree Eq x y) : x = y := by
  cases h with
  | ok h => rw [h]
  | error e => rfl

/-- The same success on both sides, or failures in a relation. -/
inductive AgreeUpTo {κ α : Type} (F : κ → κ → Prop) : Except κ α → Except κ α → Prop
  | ok (a : α) : AgreeUpTo F (.ok a) (.ok a)
  | error {e e' : κ} (h : F e e') : AgreeUpTo F (.error e) (.error e')

theorem AgreeUpTo.refl {κ α : Type} {F : κ → κ → Prop} (hF : ∀ e, F e e) (x : Except κ α) :
    AgreeUpTo F x x := by
  cases x with
  | ok a => exact .ok a
  | error e => exact .error (hF e)

namespace Action

variable {ε δ κ σ τ α β γ : Type}

/-- From worlds in `R`, two actions give values in `V`, lead to worlds in `R`, and `see` shows the
same of their events. -/
def Coupled (see : ε → List δ) (R : σ → τ → Prop) (V : α → β → Prop) (x : Action ε σ α)
    (y : Action ε τ β) : Prop :=
  ∀ v u, R v u → V (x.run v).value (y.run u).value ∧ R (x.run v).world (y.run u).world ∧
    (x.run v).events.flatMap see = (y.run u).events.flatMap see

namespace Coupled

variable {see : ε → List δ} {R : σ → τ → Prop}

theorem pure {V : α → β → Prop} {a : α} {b : β} (h : V a b) :
    Coupled see R V (pure a) (pure b) :=
  fun _ _ hR => ⟨h, hR, rfl⟩

theorem bind {V : α → β → Prop} {α' β' : Type} {W : α' → β' → Prop} {x : Action ε σ α}
    {y : Action ε τ β} {f : α → Action ε σ α'} {g : β → Action ε τ β'} (hx : Coupled see R V x y)
    (hf : ∀ a b, V a b → Coupled see R W (f a) (g b)) : Coupled see R W (x >>= f) (y >>= g) := by
  intro v u hR
  obtain ⟨hvalue, hworld, hevents⟩ := hx v u hR
  obtain ⟨hvalue', hworld', hevents'⟩ := hf _ _ hvalue _ _ hworld
  refine ⟨hvalue', hworld', ?_⟩
  simp only [run_bind, List.flatMap_append, hevents, hevents']

/-- After the same value on both sides there is one case for each value. -/
theorem bind_eq {α' β' : Type} {W : α' → β' → Prop} {x : Action ε σ α} {y : Action ε τ α}
    {f : α → Action ε σ α'} {g : α → Action ε τ β'} (hx : Coupled see R Eq x y)
    (hf : ∀ a, Coupled see R W (f a) (g a)) : Coupled see R W (x >>= f) (y >>= g) := by
  refine hx.bind fun a b hab => ?_
  subst hab
  exact hf a

theorem mono {V W : α → β → Prop} {x : Action ε σ α} {y : Action ε τ β}
    (hx : Coupled see R V x y) (hV : ∀ a b, V a b → W a b) : Coupled see R W x y := by
  intro v u hR
  obtain ⟨hvalue, hworld, hevents⟩ := hx v u hR
  exact ⟨hV _ _ hvalue, hworld, hevents⟩

/-- Two events that look the same. -/
theorem emit {e d : ε} (h : see e = see d) : Coupled see R Eq (emit e) (emit d) :=
  fun _ _ hR => ⟨rfl, hR, by simp [h]⟩

theorem emit_bind {W : α → β → Prop} {e d : ε} {x : Action ε σ α} {y : Action ε τ β}
    (h : see e = see d) (hx : Coupled see R W x y) :
    Coupled see R W (Action.emit e >>= fun _ => x) (Action.emit d >>= fun _ => y) :=
  (emit h).bind_eq fun _ => hx

/-- The same failures are waited out on both sides. -/
theorem retry {announce? : κ → Option (Action ε σ Unit)} {announce'? : κ → Option (Action ε τ Unit)}
    {x : Action ε σ (Except κ α)} {y : Action ε τ (Except κ α)} (hx : Coupled see R Eq x y)
    (hannounce : ∀ failure, Option.Rel (Coupled see R Eq) (announce? failure) (announce'? failure))
    (retries : Nat) :
    Coupled see R Eq (x.retry announce? retries) (y.retry announce'? retries) := by
  induction retries with
  | zero => exact hx
  | succ retries ih =>
      refine hx.bind_eq fun a => ?_
      cases a with
      | ok a => exact .pure rfl
      | error failure =>
          have hboth := hannounce failure
          dsimp only
          generalize announce? failure = m at hboth ⊢
          generalize announce'? failure = m' at hboth ⊢
          cases hboth with
          | none => exact .pure rfl
          | some hboth => exact hboth.bind_eq fun _ => ih

end Coupled

end Action

end PhoneVerification
