/-!
# Finite vocabularies

A vocabulary is a type whose values each have one name. `ofName?` reads a name back, and
`ofName?_eq_some_iff` says that it accepts exactly the names that are given out.
-/

namespace PhoneVerification

/-- A finite type in declaration order, every value of which is found again under its own name. -/
class Named (α : Type) where
  all : List α
  name : α → String
  mem_all : ∀ a, a ∈ all
  find_name : ∀ a, all.find? (fun b => name b == name a) = some a

namespace Named

variable {α : Type} [Named α]

/-- The value called `s`, if there is one. -/
def ofName? (s : String) : Option α :=
  (all : List α).find? fun a => name a == s

@[simp] theorem ofName?_name (a : α) : ofName? (name a) = some a :=
  find_name a

theorem name_injective {a b : α} (h : name a = name b) : a = b := by
  have := ofName?_name a
  rw [h, ofName?_name b] at this
  exact (Option.some.inj this).symm

theorem ofName?_eq_some_iff {s : String} {a : α} : ofName? s = some a ↔ s = name a := by
  constructor
  · intro h
    have := List.find?_some h
    simpa using (eq_of_beq this).symm
  · rintro rfl
    exact ofName?_name a

end Named

end PhoneVerification
