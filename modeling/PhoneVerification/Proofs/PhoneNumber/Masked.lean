import PhoneVerification.PhoneNumber.Basic

/-!
# What a masked number tells

A masked number tells the length, the first four and the last three characters of a number that is not
short, and nothing else (`masked_eq_masked_iff`).
-/

namespace PhoneVerification.PhoneNumber

variable {xs ys : List Char}

theorem length_mask (xs : List Char) :
    (mask xs).length = if xs.length < 8 then 4 else xs.length := by
  unfold mask
  split
  · rfl
  · simp only [List.length_append, List.length_take, List.length_replicate, List.length_drop]
    omega

theorem take_mask (h : 8 ≤ xs.length) : (mask xs).take 4 = xs.take 4 := by
  have hlength : (xs.take 4).length = 4 := by
    rw [List.length_take]
    omega
  rw [mask, if_neg (by omega), List.append_assoc, List.take_append_of_le_length (by omega),
    List.take_of_length_le (Nat.le_of_eq hlength)]

theorem drop_mask (h : 8 ≤ xs.length) :
    (mask xs).drop (xs.length - 3) = xs.drop (xs.length - 3) := by
  have hlength : (xs.take 4 ++ List.replicate (xs.length - 7) '*').length = xs.length - 3 := by
    simp only [List.length_append, List.length_take, List.length_replicate]
    omega
  rw [mask, if_neg (by omega), ← hlength, List.drop_left]

theorem mask_eq_mask_iff :
    mask xs = mask ys ↔ xs.length < 8 ∧ ys.length < 8 ∨
      xs.length = ys.length ∧ xs.take 4 = ys.take 4 ∧
        xs.drop (xs.length - 3) = ys.drop (ys.length - 3) := by
  constructor
  · intro h
    have hlength := congrArg List.length h
    rw [length_mask, length_mask] at hlength
    by_cases hshort : xs.length < 8 ∧ ys.length < 8
    · exact .inl hshort
    · have hsame : xs.length = ys.length ∧ 8 ≤ xs.length := by
        split at hlength <;> split at hlength <;> omega
      have hys : 8 ≤ ys.length := hsame.1 ▸ hsame.2
      refine .inr ⟨hsame.1, ?_, ?_⟩
      · rw [← take_mask hsame.2, h, take_mask hys]
      · rw [← drop_mask hsame.2, h, hsame.1, drop_mask hys]
  · rintro (⟨hxs, hys⟩ | ⟨hlength, htake, hdrop⟩)
    · rw [mask, mask, if_pos hxs, if_pos hys]
    · rw [mask, mask, hdrop, htake, hlength]

/-- Two numbers are masked alike if both are short, or if they have the same length and the same
characters at the start and at the end. -/
theorem masked_eq_masked_iff (p q : PhoneNumber) :
    p.masked = q.masked ↔ p.e164.toList.length < 8 ∧ q.e164.toList.length < 8 ∨
      p.e164.toList.length = q.e164.toList.length ∧ p.e164.toList.take 4 = q.e164.toList.take 4 ∧
        p.e164.toList.drop (p.e164.toList.length - 3) =
          q.e164.toList.drop (q.e164.toList.length - 3) := by
  rw [masked, masked, String.ofList_inj, mask_eq_mask_iff]

end PhoneVerification.PhoneNumber
