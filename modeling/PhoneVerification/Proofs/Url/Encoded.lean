import PhoneVerification.Proofs.Text.Digits
import PhoneVerification.Proofs.Text.Utf8
import PhoneVerification.Url.Percent
import Mathlib.Data.List.Basic

/-!
# Encoded texts

Each part of an address has its own set of characters that do not stand for themselves. What is
encoded for a part has none of them left, because a byte is written with characters of no set
(`encoded_encode`). An encoded character is decoded to its bytes, and so is one that was never encoded.
-/

namespace PhoneVerification.Url

/-- Whether a character is seen: it is of ASCII, and neither a control nor the space. -/
def isGraphic (c : Char) : Bool :=
  Nat.blt 0x20 c.toNat && Nat.blt c.toNat 0x7F

theorem isGraphic_iff {c : Char} : isGraphic c = true ↔ 0x20 < c.toNat ∧ c.toNat < 0x7F := by
  rw [isGraphic, Bool.and_eq_true, Nat.blt_eq, Nat.blt_eq]

namespace Percent

/-- A text without characters of a set. -/
def Encoded (inSet : Char → Bool) (s : List Char) : Prop :=
  ∀ c ∈ s, inSet c = false

/-- The characters that bytes are written with. -/
def byteChars : List Char :=
  '%' :: (List.range 16).map Text.capitalDigit

/-- Whether a set leaves the characters alone that bytes are written with. -/
def sparesBytes (inSet : Char → Bool) : Bool :=
  byteChars.all fun c => !inSet c

theorem mem_byteChars {c d : Char} (h : d ∈ char c) : d ∈ byteChars := by
  obtain ⟨b, -, hd⟩ := List.mem_flatMap.mp h
  have hb : b.toNat < 256 := b.toNat_lt
  have hdigit : ∀ n < 16, Text.capitalDigit n ∈ byteChars := fun n hn =>
    List.mem_cons_of_mem _ (List.mem_map_of_mem (List.mem_range.mpr hn))
  simp only [byte, Text.byteDigits, List.mem_cons, List.not_mem_nil, or_false] at hd
  rcases hd with rfl | rfl | rfl
  · exact List.mem_cons_self
  · exact hdigit _ (by omega)
  · exact hdigit _ (by omega)

theorem mem_encode {inSet : Char → Bool} {s : List Char} {d : Char} (h : d ∈ encode inSet s) :
    d ∈ byteChars ∨ d ∈ s ∧ inSet d = false := by
  obtain ⟨c, hc, hd⟩ := List.mem_flatMap.mp h
  split at hd
  next => exact .inl (mem_byteChars hd)
  next hset =>
    obtain rfl := List.mem_singleton.mp hd
    exact .inr ⟨hc, Bool.eq_false_iff.mpr hset⟩

/-- What is encoded for a part has none of its characters left. -/
theorem encoded_encode {inSet : Char → Bool} (h : sparesBytes inSet = true) (s : List Char) :
    Encoded inSet (encode inSet s) := by
  intro d hd
  rcases mem_encode hd with hd | ⟨-, hd⟩
  · simpa using List.all_eq_true.mp h d hd
  · exact hd

theorem decode_cons {c : Char} (hc : c ≠ '%') (rest : List Char) :
    decode (c :: rest) = String.utf8EncodeChar c ++ decode rest := by
  rw [decode]
  intro a b tail h
  exact absurd h hc

theorem decode_byte (b : UInt8) (rest : List Char) : decode (byte b ++ rest) = b :: decode rest := by
  have hdigits := Text.ofDigits?_byteDigits b
  simp only [byte, Text.byteDigits, List.cons_append, List.nil_append, decode] at hdigits ⊢
  rw [hdigits]
  simp

theorem decode_char (c : Char) (rest : List Char) :
    decode (char c ++ rest) = String.utf8EncodeChar c ++ decode rest := by
  unfold char
  induction String.utf8EncodeChar c with
  | nil => rfl
  | cons b bs ih => rw [List.flatMap_cons, List.append_assoc, decode_byte, ih, List.cons_append]

namespace Encoded

variable {inSet : Char → Bool} {s t : List Char}

theorem nil : Encoded inSet [] := by
  intro c hc
  cases hc

theorem append (hs : Encoded inSet s) (ht : Encoded inSet t) : Encoded inSet (s ++ t) :=
  List.forall_mem_append.mpr ⟨hs, ht⟩

theorem cons {c : Char} (hc : inSet c = false) (hs : Encoded inSet s) : Encoded inSet (c :: s) :=
  List.forall_mem_cons.mpr ⟨hc, hs⟩

theorem subset (hs : Encoded inSet s) (h : ∀ c ∈ t, c ∈ s) : Encoded inSet t :=
  fun c hc => hs c (h c hc)

end Encoded

/-! ## The sets of the parts -/

end Percent

end PhoneVerification.Url
