import PhoneVerification.Proofs.Text.Letters
import PhoneVerification.Text.Utf8

/-!
# Texts by their bytes

Of the bytes of a text, taken as the characters of their numbers, those below 128 are the ASCII
characters of the text. So a text of ASCII characters stands as it is, and what looks for ASCII
characters finds them in the bytes where they are in the text.
-/

namespace PhoneVerification.Text.Utf8

variable {c : Char} {s : List Char}

/-- The bytes of characters, each as the character of its number. -/
def octets (s : List Char) : List Char :=
  s.flatMap fun c => (String.utf8EncodeChar c).map octet

theorem map_octet_encode (s : String) : (encode s).map octet = octets s.toList :=
  List.map_flatMap

@[simp] theorem octets_nil : octets [] = [] :=
  rfl

@[simp] theorem octets_append (s t : List Char) : octets (s ++ t) = octets s ++ octets t :=
  List.flatMap_append

theorem octets_cons (c : Char) (s : List Char) :
    octets (c :: s) = (String.utf8EncodeChar c).map octet ++ octets s :=
  List.flatMap_cons

theorem map_octet_of_ascii (h : c.toNat < 0x80) : (String.utf8EncodeChar c).map octet = [c] :=
  forall_ascii (P := fun c => (String.utf8EncodeChar c).map octet = [c]) (by decide) h

@[simp] theorem octets_cons_of_ascii (h : c.toNat < 0x80) (s : List Char) :
    octets (c :: s) = c :: octets s := by
  rw [octets_cons, map_octet_of_ascii h, List.singleton_append]

theorem octets_eq_self (h : ∀ c ∈ s, c.toNat < 0x80) : octets s = s := by
  induction s with
  | nil => rfl
  | cons c s ih =>
      rw [octets_cons_of_ascii (h c List.mem_cons_self),
        ih fun d hd => h d (List.mem_cons_of_mem c hd)]

@[simp] theorem toNat_octet (b : UInt8) : (octet b).toNat = b.toNat := by
  have hb := b.toNat_lt
  have hvalid : b.toNat.isValidChar := .inl (by omega)
  rw [octet, Char.ofNat, dif_pos hvalid]
  rfl

@[simp] theorem byte_octet (b : UInt8) : byte (octet b) = b := by
  rw [byte, toNat_octet, UInt8.ofNat_toNat]

theorem le_toNat_ofNat {n : Nat} (hlow : 0x80 ≤ n) (hhigh : n < 0x100) :
    0x80 ≤ (UInt8.ofNat n).toNat := by
  rwa [UInt8.toNat_ofNat_of_lt' hhigh]

/-- Every byte of a character beyond ASCII is beyond ASCII. -/
theorem le_of_mem_utf8EncodeChar (h : 0x80 ≤ c.toNat) :
    ∀ b ∈ String.utf8EncodeChar c, 0x80 ≤ b.toNat := by
  have hvalid : c.val.toNat < 0xD800 ∨ 0xDFFF < c.val.toNat ∧ c.val.toNat < 0x110000 := c.valid
  have hlarge : 0x80 ≤ c.val.toNat := h
  rw [String.utf8EncodeChar.eq_1]
  generalize c.val.toNat = v at hlarge hvalid
  intro b hb
  split at hb
  next => omega
  next =>
    split at hb
    next =>
      simp only [List.mem_cons, List.not_mem_nil, or_false] at hb
      rcases hb with rfl | rfl <;> exact le_toNat_ofNat (by omega) (by omega)
    next =>
      split at hb
      next =>
        simp only [List.mem_cons, List.not_mem_nil, or_false] at hb
        rcases hb with rfl | rfl | rfl <;> exact le_toNat_ofNat (by omega) (by omega)
      next =>
        simp only [List.mem_cons, List.not_mem_nil, or_false] at hb
        rcases hb with rfl | rfl | rfl | rfl <;> exact le_toNat_ofNat (by omega) (by omega)

end PhoneVerification.Text.Utf8
