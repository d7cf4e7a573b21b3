import PhoneVerification.Text.Digits

/-!
# Letters of either case

What is the same for the twenty-six capitals and their small letters is the same for every character
and its small form (`same_lowerAscii`).
-/

namespace PhoneVerification.Text

/-- What holds of the first 128 characters, one by one. -/
theorem forall_ascii {P : Char → Prop} (h : ∀ n < 0x80, P (Char.ofNat n)) {c : Char}
    (hc : c.toNat < 0x80) : P c := by
  rw [← Char.ofNat_toNat c]
  exact h c.toNat hc

theorem exists_of_isAsciiUpper {c : Char} (h : isAsciiUpper c = true) :
    ∃ n ∈ List.range' 65 26, c = Char.ofNat n := by
  refine ⟨c.toNat, ?_, (Char.ofNat_toNat c).symm⟩
  simp only [isAsciiUpper, Bool.and_eq_true, decide_eq_true_eq, Char.le_def] at h
  have hlow : 65 ≤ c.toNat := h.1
  have hhigh : c.toNat ≤ 90 := h.2
  rw [List.mem_range'_1]
  omega

/-- Only the capitals A to Z change. -/
theorem same_lowerAscii {α : Type} {f : Char → α}
    (h : ∀ n ∈ List.range' 65 26, f (lowerAscii (Char.ofNat n)) = f (Char.ofNat n)) (c : Char) :
    f (lowerAscii c) = f c := by
  by_cases hc : isAsciiUpper c = true
  · obtain ⟨n, hn, rfl⟩ := exists_of_isAsciiUpper hc
    exact h n hn
  · rw [lowerAscii, if_neg hc]

end PhoneVerification.Text
