import PhoneVerification.Text.Ascii
import Mathlib.Data.List.Basic

/-!
# Marks in texts

What follows a mark at the start of a text, and texts in which every mark is replaced by a value. A
value is not looked at again, whatever marks it has.
-/

namespace PhoneVerification.Text

theorem after?_eq_some_iff {start s rest : String} :
    after? start s = some rest ↔ s = start ++ rest := by
  simp only [after?, Option.map_eq_some_iff, List.isPrefixOf?_eq_some_iff_append_eq]
  constructor
  · rintro ⟨t, ht, rfl⟩
    apply String.toList_injective
    rw [String.toList_append, String.toList_ofList, ht]
  · rintro rfl
    exact ⟨rest.toList, String.toList_append.symm, String.ofList_toList⟩

theorem isSome_after?_iff {start s : String} :
    (after? start s).isSome = true ↔ start.toList <+: s.toList := by
  simp only [after?, Option.isSome_map, Option.isSome_iff_exists,
    List.isPrefixOf?_eq_some_iff_append_eq]
  rfl

/-- Replaces every occurrence of a mark, from left to right. The number counts the characters that
still belong to the last occurrence. -/
def replaceFrom (mark value : List Char) : Nat → List Char → List Char
  | _, [] => []
  | k + 1, _ :: s => replaceFrom mark value k s
  | 0, c :: s =>
    if mark.isPrefixOf (c :: s) then value ++ replaceFrom mark value (mark.length - 1) s
    else c :: replaceFrom mark value 0 s

/-- The text with every occurrence of a mark replaced by a value. -/
def replace (mark value s : String) : String :=
  String.ofList (replaceFrom mark.toList value.toList 0 s.toList)

variable {mark value s before : List Char} {x : Char}

/-- The rest of an occurrence is left out. -/
theorem replaceFrom_length (skipped s : List Char) :
    replaceFrom mark value skipped.length (skipped ++ s) = replaceFrom mark value 0 s := by
  induction skipped with
  | nil => rfl
  | cons c skipped ih => exact ih

theorem replaceFrom_mark (s : List Char) :
    replaceFrom (x :: mark) value 0 (x :: mark ++ s) =
      value ++ replaceFrom (x :: mark) value 0 s := by
  have hmark : (x :: mark).isPrefixOf (x :: (mark ++ s)) = true :=
    List.isPrefixOf_iff_prefix.mpr (List.prefix_append (x :: mark) s)
  rw [List.cons_append, replaceFrom, if_pos hmark, List.length_cons, Nat.add_one_sub_one,
    replaceFrom_length]

/-- Nothing is replaced before the first character of a mark. -/
theorem replaceFrom_append (h : x ∉ before) (s : List Char) :
    replaceFrom (x :: mark) value 0 (before ++ s) =
      before ++ replaceFrom (x :: mark) value 0 s := by
  induction before with
  | nil => rfl
  | cons c before ih =>
      obtain ⟨hc, hbefore⟩ := not_or.mp (mt List.mem_cons.mpr h)
      have hnomark : ¬ (x :: mark).isPrefixOf (c :: (before ++ s)) = true := by
        rw [List.isPrefixOf_iff_prefix, List.cons_prefix_cons]
        rintro ⟨hx, -⟩
        exact hc hx
      rw [List.cons_append, replaceFrom, if_neg hnomark, ih hbefore, List.cons_append]

theorem replaceFrom_eq_self (h : x ∉ s) : replaceFrom (x :: mark) value 0 s = s := by
  have happend : replaceFrom (x :: mark) value 0 (s ++ []) =
      s ++ replaceFrom (x :: mark) value 0 [] := replaceFrom_append h []
  rwa [List.append_nil, replaceFrom, List.append_nil] at happend

end PhoneVerification.Text
