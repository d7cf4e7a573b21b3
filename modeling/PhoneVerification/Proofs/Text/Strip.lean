import PhoneVerification.Text.Blank
import Mathlib.Data.List.DropRight

/-!
# Stripped texts

What is dropped at the ends of a text, and what is left of it. A text is made of its stripped form
with dropped characters around it (`exists_strip`), and more of them around it change nothing
(`strip_append`). Both together say which text is left (`strip_eq_iff`).
-/

namespace PhoneVerification.Text

section Tail

variable {α : Type} {p : α → Bool} {s t : List α}

theorem dropTail_eq_nil_iff : dropTail p s = [] ↔ ∀ c ∈ s, p c = true :=
  List.rdropWhile_eq_nil_iff

theorem dropTail_getLast (h : dropTail p s ≠ []) : p ((dropTail p s).getLast h) = false :=
  Bool.eq_false_iff.mpr (List.rdropWhile_last_not p s h)

theorem mem_of_mem_dropTail {c : α} (h : c ∈ dropTail p s) : c ∈ s := by
  have hfront : dropTail p s <+: s := List.rdropWhile_prefix p s
  exact hfront.mem h

/-- A tail is dropped from the end, and from what is before it only if it is dropped altogether. -/
theorem dropTail_append :
    dropTail p (s ++ t) = if (dropTail p t).isEmpty then dropTail p s else s ++ dropTail p t := by
  unfold dropTail
  rw [List.reverse_append, List.dropWhile_append, List.isEmpty_reverse]
  split
  · rfl
  · rw [List.reverse_append, List.reverse_reverse]

theorem dropTail_append_of_all (h : ∀ c ∈ t, p c = true) : dropTail p (s ++ t) = dropTail p s := by
  rw [dropTail_append, dropTail_eq_nil_iff.mpr h]
  rfl

/-- Nothing is dropped before a character that stays. -/
theorem dropTail_append_cons {x : α} (hx : p x = false) :
    dropTail p (s ++ x :: t) = s ++ x :: dropTail p t := by
  have hend : dropTail p (s ++ [x]) = s ++ [x] :=
    List.rdropWhile_concat_neg p s x (Bool.eq_false_iff.mp hx)
  rw [List.append_cons s x t, dropTail_append]
  split
  next hnil => rw [hend, List.isEmpty_iff.mp hnil]
  next => rw [← List.append_cons]

end Tail

variable {p : Char → Bool} {s : List Char}

theorem strip_eq_nil_iff : strip p s = [] ↔ ∀ c ∈ s, p c = true := by
  rw [strip, dropTail_eq_nil_iff]
  constructor
  · intro h c hc
    rw [← List.takeWhile_append_dropWhile (p := p) (l := s), List.mem_append] at hc
    rcases hc with hc | hc
    · exact List.mem_takeWhile_imp hc
    · exact h c hc
  · intro h c hc
    exact h c (List.dropWhile_sublist p |>.mem hc)

theorem isBlankText_eq_true_iff {s : String} :
    isBlankText s = true ↔ ∀ c ∈ s.toList, isBlank c = true := by
  rw [isBlankText, String.isEmpty_iff, ← String.toList_eq_nil_iff, toList_trim,
    strip_eq_nil_iff]

/-- Nothing is dropped from a text that has no such characters at its ends. -/
theorem strip_eq_self_of_ends (hhead : ∀ c ∈ s.head?, p c = false)
    (hlast : ∀ c ∈ s.getLast?, p c = false) : strip p s = s := by
  cases s with
  | nil => rfl
  | cons x rest =>
      have hstart : (x :: rest).dropWhile p = x :: rest :=
        List.dropWhile_cons_of_neg (Bool.eq_false_iff.mp (hhead x rfl))
      have hend : (x :: rest).rdropWhile p = x :: rest := by
        rw [List.rdropWhile_eq_self_iff]
        intro hne
        exact Bool.eq_false_iff.mp (hlast _ (List.getLast?_eq_some_getLast hne))
      rw [strip, hstart]
      exact hend

/-- Nothing is dropped from a text without such characters. -/
theorem strip_eq_self (h : ∀ c ∈ s, p c = false) : strip p s = s := by
  apply strip_eq_self_of_ends
  · intro c hc
    exact h c (List.mem_of_mem_head? hc)
  · intro c hc
    exact h c (List.mem_of_mem_getLast? hc)

/-- A text is its stripped form between characters that are dropped. -/
theorem exists_strip (p : Char → Bool) (s : List Char) :
    ∃ before after, (∀ c ∈ before, p c = true) ∧ (∀ c ∈ after, p c = true) ∧
      s = before ++ strip p s ++ after := by
  refine ⟨s.takeWhile p, (s.dropWhile p).rtakeWhile p, ?_, ?_, ?_⟩
  · intro c hc
    exact List.mem_takeWhile_imp hc
  · intro c hc
    exact List.mem_rtakeWhile_imp hc
  · have hend : strip p s ++ (s.dropWhile p).rtakeWhile p = s.dropWhile p :=
      List.rdropWhile_append_rtakeWhile
    rw [List.append_assoc, hend, List.takeWhile_append_dropWhile]

/-- What is left of a text if some characters are dropped at both ends: only such characters are
around it, and none of them is at its own ends. -/
structure Stripped (p : Char → Bool) (s t : List Char) : Prop where
  around : ∃ before after, (∀ c ∈ before, p c = true) ∧ (∀ c ∈ after, p c = true) ∧
    s = before ++ t ++ after
  head : ∀ c ∈ t.head?, p c = false
  last : ∀ c ∈ t.getLast?, p c = false

/-- Characters that are dropped do not matter around a text. -/
theorem strip_append {before after : List Char} (hbefore : ∀ c ∈ before, p c = true)
    (hafter : ∀ c ∈ after, p c = true) : strip p (before ++ s ++ after) = strip p s := by
  unfold strip
  rw [List.append_assoc, List.dropWhile_append_of_pos hbefore, List.dropWhile_append]
  split
  next hall =>
    rw [List.isEmpty_iff] at hall
    rw [List.dropWhile_eq_nil_iff.mpr hafter, hall]
  next => exact dropTail_append_of_all hafter

/-- Blanks around a text do not matter. -/
theorem trim_append {before s after : String} (hbefore : ∀ c ∈ before.toList, isBlank c = true)
    (hafter : ∀ c ∈ after.toList, isBlank c = true) : trim (before ++ s ++ after) = trim s := by
  rw [trim, trim, String.toList_append, String.toList_append, strip_append hbefore hafter]

theorem trim_eq_self {s : String} (h : ∀ c ∈ s.toList, isBlank c = false) : trim s = s := by
  rw [trim, strip_eq_self h, String.ofList_toList]

theorem stripped_strip (p : Char → Bool) (s : List Char) : Stripped p s (strip p s) := by
  refine ⟨exists_strip p s, ?_, ?_⟩
  · intro c hc
    obtain ⟨rest, hrest⟩ := List.head?_eq_some_iff.mp hc
    obtain ⟨after, hafter⟩ : strip p s <+: s.dropWhile p := List.rdropWhile_prefix p _
    have hfirst := List.head?_dropWhile_not p s
    rw [← hafter, hrest] at hfirst
    exact hfirst
  · intro c hc
    have hne : strip p s ≠ [] := by
      intro hnil
      rw [hnil] at hc
      cases hc
    rw [List.getLast?_eq_some_getLast hne, Option.mem_some_iff] at hc
    rw [← hc]
    exact dropTail_getLast hne

/-- Only one text is left. -/
theorem strip_eq_iff {t : List Char} : strip p s = t ↔ Stripped p s t := by
  constructor
  · rintro rfl
    exact stripped_strip p s
  · rintro ⟨⟨before, after, hbefore, hafter, rfl⟩, hhead, hlast⟩
    rw [strip_append hbefore hafter]
    exact strip_eq_self_of_ends hhead hlast

theorem strip_strip (p : Char → Bool) (s : List Char) : strip p (strip p s) = strip p s := by
  obtain ⟨-, hhead, hlast⟩ := stripped_strip p s
  exact strip_eq_self_of_ends hhead hlast

/-- Nothing changes if the end was dropped before. -/
theorem strip_dropTail (p : Char → Bool) (s : List Char) : strip p (dropTail p s) = strip p s := by
  have hs : dropTail p s ++ s.rtakeWhile p = s := List.rdropWhile_append_rtakeWhile
  have hstrip : strip p ([] ++ dropTail p s ++ s.rtakeWhile p) = strip p (dropTail p s) :=
    strip_append (by simp) fun c hc => List.mem_rtakeWhile_imp hc
  rw [List.nil_append, hs] at hstrip
  exact hstrip.symm

/-- Nothing is dropped at the start if the first character stays. -/
theorem strip_cons {x : Char} (hx : p x = false) : strip p (x :: s) = dropTail p (x :: s) := by
  rw [strip, List.dropWhile_cons_of_neg (Bool.eq_false_iff.mp hx)]

/-- A change that keeps what is dropped can be made before or after. -/
theorem strip_map {f : Char → Char} (h : ∀ c, p (f c) = p c) (s : List Char) :
    strip p (s.map f) = (strip p s).map f := by
  have hp : p ∘ f = p := funext h
  rw [strip, dropTail, List.dropWhile_map, ← List.map_reverse, List.dropWhile_map, hp,
    ← List.map_reverse, strip, dropTail]

/-- Who does not look at dropped characters sees no difference. -/
theorem filter_strip {q : Char → Bool} (h : ∀ c ∈ s, p c = true → q c = false) :
    (strip p s).filter q = s.filter q := by
  obtain ⟨before, after, hbefore, hafter, hs⟩ := exists_strip p s
  have hnone : ∀ t : List Char, (∀ c ∈ t, c ∈ s) → (∀ c ∈ t, p c = true) → t.filter q = [] := by
    intro t hmem ht
    rw [List.filter_eq_nil_iff]
    intro c hc
    rw [h c (hmem c hc) (ht c hc)]
    exact Bool.false_ne_true
  have hfront : before.filter q = [] := by
    apply hnone before _ hbefore
    intro c hc
    rw [hs]
    simp [hc]
  have hback : after.filter q = [] := by
    apply hnone after _ hafter
    intro c hc
    rw [hs]
    simp [hc]
  calc (strip p s).filter q
      = before.filter q ++ (strip p s).filter q ++ after.filter q := by simp [hfront, hback]
    _ = s.filter q := by rw [← List.filter_append, ← List.filter_append, ← hs]

end PhoneVerification.Text
