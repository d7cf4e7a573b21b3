import PhoneVerification.Verification.Code
import PhoneVerification.Verification.Link
import PhoneVerification.Proofs.Text.Capitals

/-!
# The code of a link is never blank

A code is empty after normalization exactly when nothing but blanks was typed. The code of a
verification link ends where the trimmed fragment ends, so its last character is not blank.
-/

namespace PhoneVerification

/-- A code is empty exactly when nothing but blanks was typed. -/
theorem VerificationCode.isEmpty_normalize (raw : String) :
    (VerificationCode.normalize raw).isEmpty = Text.isBlankText raw :=
  Text.uppercase_isEmpty _

namespace VerifyLink

/-- The parts of a list that is split in three are found in it, with a separator between them. -/
theorem eq_of_splitOn {s a b c : List Char} {x : Char} (h : s.splitOn x = [a, b, c]) :
    s = a ++ x :: (b ++ x :: c) := by
  have hs := @List.intercalate_splitOn _ s _ _ x
  rw [h] at hs
  simpa [List.intercalate] using hs.symm

/-- What is read from a link: its trimmed fragment holds the kind, the number and the code. -/
theorem fragment_of_parse? {text : String} {link : VerifyLink}
    (h : parse? text = some link) :
    Text.strip Text.isBlank (fragment text.toList) =
        kind ++ ':' :: (link.phone.toList ++ ':' :: link.code.toList) ∧
      link.phone.toList ≠ [] ∧ link.code.toList ≠ [] := by
  unfold parse? at h
  split at h
  next k phone code hsplit =>
    split at h
    next hparts =>
      obtain rfl := Option.some.inj h
      simp only [Bool.and_eq_true, beq_iff_eq, Bool.not_eq_true', List.isEmpty_eq_false_iff]
        at hparts
      obtain ⟨⟨rfl, hphone⟩, hcode⟩ := hparts
      refine ⟨?_, ?_, ?_⟩
      · simpa using eq_of_splitOn hsplit
      · simpa using hphone
      · simpa using hcode
    next => cases h
  next => cases h

/-- The code of a link has a character that is not blank. -/
theorem isBlankText_code {text : String} {link : VerifyLink} (h : parse? text = some link) :
    Text.isBlankText link.code = false := by
  obtain ⟨hfragment, -, hcode⟩ := fragment_of_parse? h
  have hne : Text.strip Text.isBlank (fragment text.toList) ≠ [] := by
    rw [hfragment]
    simp
  have hlast := Text.dropTail_getLast hne
  -- the fragment ends with the code, so they have the same last character
  have hend : (Text.strip Text.isBlank (fragment text.toList)).getLast hne =
      link.code.toList.getLast hcode := by
    simp only [hfragment, List.getLast_append_of_ne_nil, List.getLast_cons, ne_eq, hcode,
      not_false_eq_true, List.append_eq_nil_iff, reduceCtorEq, and_false]
  rw [← Bool.not_eq_true, Text.isBlankText_eq_true_iff]
  intro hblank
  have hmem := hblank _ (List.getLast_mem hcode)
  rw [← hend] at hmem
  exact Bool.false_ne_true (hlast.symm.trans hmem)

end VerifyLink

end PhoneVerification
