import Mathlib.Data.List.Basic

/-!
# Readings that can fail

A reading that is made of others succeeds exactly if each of them does. Pieces that are read one by one
are all read, or none is.
-/

namespace PhoneVerification

section Failing

variable {ε α β : Type}

theorem bind_eq_ok_iff {x : Except ε α} {f : α → Except ε β} {b : β} :
    x >>= f = .ok b ↔ ∃ a, x = .ok a ∧ f a = .ok b := by
  cases x with
  | error e => simp [bind, Except.bind]
  | ok a => simp [bind, Except.bind]

theorem map_eq_ok_iff {x : Except ε α} {f : α → β} {b : β} :
    x.map f = .ok b ↔ ∃ a, x = .ok a ∧ f a = b := by
  cases x with
  | error e => simp [Except.map]
  | ok a => simp [Except.map]

theorem mapError_eq_ok_iff {ε' : Type} {f : ε → ε'} {x : Except ε α} {a : α} :
    x.mapError f = .ok a ↔ x = .ok a := by
  cases x with
  | error e => simp [Except.mapError]
  | ok b => simp [Except.mapError]

/-- What every step preserves is preserved by all steps together. -/
theorem foldlM_preserves {step : β → α → Except ε β} {P : β → Prop}
    (hstep : ∀ {b b' : β} {a : α}, P b → step b a = .ok b' → P b') {as : List α} {b b' : β}
    (hb : P b) (h : as.foldlM step b = .ok b') : P b' := by
  induction as generalizing b with
  | nil =>
      obtain rfl := Except.ok.inj h
      exact hb
  | cons a as ih =>
      rw [List.foldlM_cons] at h
      obtain ⟨mid, hmid, hrest⟩ := bind_eq_ok_iff.mp h
      exact ih (hstep hb hmid) hrest

end Failing

section Pieces

variable {α β : Type} {l : List α} {f : α → Option β}

theorem mapM_eq_some_map {g : α → β} (h : ∀ a ∈ l, f a = some (g a)) :
    l.mapM f = some (l.map g) := by
  induction l with
  | nil => rfl
  | cons a l ih =>
      have htail := ih fun b hb => h b (List.mem_cons_of_mem a hb)
      simp [List.mapM_cons, h a List.mem_cons_self, htail]

end Pieces

end PhoneVerification
