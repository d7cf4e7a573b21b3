import PhoneVerification.Proofs.Text.Digits
import PhoneVerification.Proofs.Text.Strip
import PhoneVerification.RetryWindow

/-!
# Waits in headers

A header says how long to wait by a number of seconds (`DelaySeconds`): digits with nothing but blanks
around them. Every such text is read as its number if that fits in sixty-four bits. Of all other texts
only those are read that have a plus sign in front of the digits, so the reader accepts more than the
form allows.
-/

namespace PhoneVerification.RetryWindow

variable {value : String} {n : Nat}

/-- The text is a numeral between blanks. -/
def DelaySeconds (value : String) (n : Nat) : Prop :=
  ∃ digits, Text.Stripped Text.isBlank value.toList digits ∧ Text.Numeral digits n

/-- The text has a plus sign in front of `rest`, with blanks around both. -/
def PlusBefore (value : String) (rest : List Char) : Prop :=
  Text.Stripped Text.isBlank value.toList ('+' :: rest)

theorem delaySeconds_iff :
    DelaySeconds value n ↔ Text.Numeral (Text.strip Text.isBlank value.toList) n := by
  constructor
  · rintro ⟨digits, hstripped, hnumeral⟩
    rwa [Text.strip_eq_iff.mpr hstripped]
  · intro hnumeral
    exact ⟨_, Text.stripped_strip _ _, hnumeral⟩

/-- No number that is read is too large for its type. -/
theorem seconds_ofHeader? (value : String) :
    (ofHeader? value).map (fun w => w.seconds.toNat) =
      Text.boundedDecimal? UInt64.size (Text.trim value) := by
  unfold ofHeader?
  cases hread : Text.boundedDecimal? UInt64.size (Text.trim value) with
  | none => rfl
  | some n =>
      obtain ⟨-, hlt⟩ := Text.boundedDecimal?_eq_some_iff.mp hread
      rw [Option.map_some, Option.map_some, UInt64.toNat_ofNat_of_lt' hlt]

theorem seconds_eq_some_iff :
    (ofHeader? value).map (fun w => w.seconds.toNat) = some n ↔
      (DelaySeconds value n ∨ ∃ digits, PlusBefore value digits ∧ Text.Numeral digits n) ∧
        n < 2 ^ 64 := by
  rw [seconds_ofHeader?, Text.boundedDecimal?_eq_some_iff, Text.toList_trim, delaySeconds_iff]
  have hsize : UInt64.size = 2 ^ 64 := rfl
  simp only [Text.strip_eq_iff, PlusBefore, hsize]

/-- A plus sign in front of the digits is not a part of the form. -/
theorem not_delaySeconds_of_plus {rest : List Char} (h : PlusBefore value rest) (n : Nat) :
    ¬ DelaySeconds value n := by
  rw [delaySeconds_iff, Text.strip_eq_iff.mpr h]
  exact Text.not_numeral_plus

/-- A text without a plus sign in front is read exactly if it is a number of seconds below the limit,
and then as this number. With a plus sign in front, what is behind the sign is read in this way. -/
theorem reads_delay_seconds (value : String) (n : Nat) :
    ((∀ rest, ¬ PlusBefore value rest) →
      ((ofHeader? value).map (fun w => w.seconds.toNat) = some n ↔
        DelaySeconds value n ∧ n < 2 ^ 64)) ∧
    (∀ rest, PlusBefore value rest →
      ((ofHeader? value).map (fun w => w.seconds.toNat) = some n ↔
        Text.Numeral rest n ∧ n < 2 ^ 64)) := by
  rw [seconds_eq_some_iff]
  constructor
  · intro hnone
    refine and_congr_left fun _ => ⟨?_, .inl⟩
    rintro (hseconds | ⟨digits, hplus, -⟩)
    · exact hseconds
    · exact absurd hplus (hnone digits)
  · intro rest hplus
    refine and_congr_left fun _ => ⟨?_, fun hnumeral => .inr ⟨rest, hplus, hnumeral⟩⟩
    rintro (hseconds | ⟨digits, hplus', hnumeral⟩)
    · exact absurd hseconds (not_delaySeconds_of_plus hplus n)
    · -- only one text is left between the blanks
      have hsame := (Text.strip_eq_iff.mpr hplus).symm.trans (Text.strip_eq_iff.mpr hplus')
      rwa [(List.cons.inj hsame).2]

/-- The largest number that fits, with zeros and blanks in front of it. -/
theorem reads_delay_seconds_largest :
    (∀ rest, ¬ PlusBefore "\t 00018446744073709551615\n" rest) ∧
    DelaySeconds "\t 00018446744073709551615\n" 18446744073709551615 ∧
    (ofHeader? "\t 00018446744073709551615\n").map (fun w => w.seconds.toNat) =
      some 18446744073709551615 ∧
    PlusBefore " +007" ['0', '0', '7'] ∧
    (ofHeader? " +007").map (fun w => w.seconds.toNat) = some 7 := by
  have hstrip : Text.strip Text.isBlank "\t 00018446744073709551615\n".toList =
      "00018446744073709551615".toList := by
    decide
  have hunsigned : ∀ rest, ¬ PlusBefore "\t 00018446744073709551615\n" rest := by
    intro rest hplus
    have hfirst := congrArg List.head? (hstrip.symm.trans (Text.strip_eq_iff.mpr hplus))
    rw [List.head?_cons] at hfirst
    exact absurd hfirst (by decide)
  have hseconds : DelaySeconds "\t 00018446744073709551615\n" 18446744073709551615 := by
    rw [delaySeconds_iff, hstrip]
    exact ⟨by decide, List.all_eq_true.mp (by decide), by decide⟩
  have hplus : PlusBefore " +007" ['0', '0', '7'] := Text.strip_eq_iff.mp (by decide)
  refine ⟨hunsigned, hseconds, ?_, hplus, ?_⟩
  · exact ((reads_delay_seconds _ _).1 hunsigned).mpr ⟨hseconds, by decide⟩
  · exact ((reads_delay_seconds _ _).2 _ hplus).mpr
      ⟨⟨by decide, List.all_eq_true.mp (by decide), by decide⟩, by decide⟩

/-- A signed number is read, although it is not of the form. -/
theorem reads_signed_seconds :
    (ofHeader? "+45").map (fun w => w.seconds.toNat) = some 45 ∧
      ∀ n, ¬ DelaySeconds "+45" n := by
  have hplus : PlusBefore "+45" ['4', '5'] := Text.strip_eq_iff.mp (by decide)
  exact ⟨by decide, not_delaySeconds_of_plus hplus⟩

/-- The first number that does not fit is not read. -/
example : ofHeader? "18446744073709551616" = none := by
  decide

end PhoneVerification.RetryWindow
