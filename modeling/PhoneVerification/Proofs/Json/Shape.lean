import PhoneVerification.Json.Shape
import PhoneVerification.Proofs.Reading
import PhoneVerification.Proofs.Text.Digits
import Mathlib.Data.List.Nodup

/-!
# Shapes of written values

A text, a number, a name and a list are taken from their written forms. A record gives its fields
in their order, since no two of them have one name (`asRecord?_record`).
-/

namespace PhoneVerification.Json

theorem asText?_text (s : String) : asText? (text s) = some s :=
  rfl

theorem asNat?_ofNat {limit n : Nat} (h : n < limit) : asNat? limit (ofNat n) = some n := by
  simp [asNat?, ofNat, Text.decimal?_toDigits, h]

theorem asNamed?_text {α : Type} [Named α] (a : α) : asNamed? (text (Named.name a)) = some a :=
  Named.ofName?_name a

theorem asList?_array {α : Type} {read? : Json → Option α} {write : α → Json}
    (h : ∀ a, read? (write a) = some a) (l : List α) :
    asList? read? (array (l.map write)) = some l := by
  have hread : (l.map write).mapM read? = some (l.map id) := by
    rw [List.mapM_map]
    exact mapM_eq_some_map fun a _ => h a
  rwa [List.map_id] at hread

/-- Only one member of an object has a name if no name is given twice. -/
theorem filter_name {members : List (Option String × Json)} {name : String} {v : Json}
    (hnodup : (members.map Prod.fst).Nodup) (hm : (some name, v) ∈ members) :
    members.filter (fun m => m.1 == some name) = [(some name, v)] := by
  induction members with
  | nil => cases hm
  | cons m members ih =>
      obtain ⟨hnew, hnodup⟩ := List.nodup_cons.mp hnodup
      rcases List.mem_cons.mp hm with rfl | hm
      · have hrest : members.filter (fun m => m.1 == some name) = [] := by
          rw [List.filter_eq_nil_iff]
          intro m hm hname
          exact hnew (List.mem_map.mpr ⟨m, hm, eq_of_beq hname⟩)
        simp [hrest]
      · have hother : m.1 ≠ some name := by
          rintro hname
          exact hnew (List.mem_map.mpr ⟨_, hm, hname.symm⟩)
        simp [hother, ih hnodup hm]

theorem field?_of_mem {members : List (Option String × Json)} {name : String} {v : Json}
    (hnodup : (members.map Prod.fst).Nodup) (hm : (some name, v) ∈ members) :
    field? members name = some (some v) := by
  rw [field?, filter_name hnodup hm]

/-- The fields of a written record are found again, each under its own name. -/
theorem asRecord?_record {members : List (String × Json)} (complete : Bool)
    (hnodup : (members.map Prod.fst).Nodup) :
    asRecord? (members.map Prod.fst) complete (record members) =
      some (members.map fun m => some m.2) := by
  have hkeys : ((members.map fun m => (some m.1, m.2)).map Prod.fst).Nodup := by
    have h := hnodup.map (Option.some_injective String)
    simpa [List.map_map, Function.comp_def] using h
  have hfields : (members.map Prod.fst).mapM (field? (members.map fun m => (some m.1, m.2))) =
      some (members.map fun m => some m.2) := by
    rw [List.mapM_map]
    refine mapM_eq_some_map fun m hm => ?_
    exact field?_of_mem hkeys (List.mem_map.mpr ⟨m, hm, rfl⟩)
  simp [asRecord?, record, hfields]

/-- A record that has just the fields asked for gives them in their order. -/
theorem asRecord?_of_keys {names : List String} {members : List (String × Json)} (complete : Bool)
    (hkeys : members.map Prod.fst = names) (hnodup : names.Nodup) :
    asRecord? names complete (record members) = some (members.map fun m => some m.2) := by
  subst hkeys
  exact asRecord?_record complete hnodup

end PhoneVerification.Json
