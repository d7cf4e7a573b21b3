import PhoneVerification.Proofs.Text.Pieces
import PhoneVerification.Text.Digits
import Mathlib.Data.List.Induction
import Mathlib.Data.Nat.Digits.Defs

/-!
# Numbers written in decimal

The decimal digits of a number are read as that number (`decimal?_toDigits`), and only zero is written
with a zero in front. A number is told by its digits in front of anything but a digit
(`toDigits_append_inj`). `Numeral` says which number a run of digits writes, and nothing else is read
as a number (`decimal?_eq_some_iff`).
-/

namespace PhoneVerification.Text

theorem isAsciiDigit_iff {c : Char} : isAsciiDigit c = true ↔ 48 ≤ c.toNat ∧ c.toNat ≤ 57 := by
  simp only [isAsciiDigit, Bool.and_eq_true, decide_eq_true_eq, Char.le_def,
    UInt32.le_iff_toNat_le]
  exact Iff.rfl

theorem digitValue?_digitChar : ∀ d < 16, digitValue? (Nat.digitChar d) = some d := by
  decide

theorem digitValue?_capitalDigit : ∀ d < 16, digitValue? (capitalDigit d) = some d := by
  decide

theorem isAsciiDigit_digitChar : ∀ d < 10, isAsciiDigit (Nat.digitChar d) = true := by
  decide

theorem digitChar_ne_zero : ∀ d < 10, d ≠ 0 → Nat.digitChar d ≠ '0' := by
  decide

theorem ofDigits?_append_digitChar {base : Nat} (hbase : base ≤ 16) {digits : List Char} {n d : Nat}
    (h : ofDigits? base digits = some n) (hd : d < base) :
    ofDigits? base (digits ++ [Nat.digitChar d]) = some (base * n + d) := by
  unfold ofDigits? at h ⊢
  rw [List.foldlM_append, h]
  simp [digitValue?_digitChar d (by omega), hd]

theorem ofDigits?_byteDigits (b : UInt8) : ofDigits? 16 (byteDigits b) = some b.toNat := by
  have hb : b.toNat < 256 := b.toNat_lt
  have hhigh : b.toNat / 16 < 16 := by omega
  have hlow : b.toNat % 16 < 16 := by omega
  have hsum : 16 * (b.toNat / 16) + b.toNat % 16 = b.toNat := by omega
  simp [ofDigits?, byteDigits, digitValue?_capitalDigit, hhigh, hlow, hsum]

theorem lt_of_digitValue? {c : Char} {d : Nat} (h : digitValue? c = some d) : c.toNat < 0x80 := by
  have hbelow : ∀ limit : Char, c ≤ limit → limit.toNat < 0x80 → c.toNat < 0x80 := fun limit hc =>
    Nat.lt_of_le_of_lt hc
  unfold digitValue? at h
  split at h
  next hdigit =>
    rw [isAsciiDigit, Bool.and_eq_true, decide_eq_true_eq, decide_eq_true_eq] at hdigit
    exact hbelow '9' hdigit.2 (by decide)
  next =>
    split at h
    next hsmall =>
      rw [Bool.and_eq_true, decide_eq_true_eq, decide_eq_true_eq] at hsmall
      exact hbelow 'f' hsmall.2 (by decide)
    next =>
      split at h
      next hcapital =>
        rw [Bool.and_eq_true, decide_eq_true_eq, decide_eq_true_eq] at hcapital
        exact hbelow 'F' hcapital.2 (by decide)
      next => cases h

/-- Only ASCII characters are read as digits. -/
theorem lt_of_mem_of_ofDigits? {base : Nat} {digits : List Char} {n : Nat}
    (h : ofDigits? base digits = some n) : ∀ c ∈ digits, c.toNat < 0x80 := by
  induction digits using List.reverseRecOn generalizing n with
  | nil => exact List.forall_mem_nil _
  | append_singleton digits c ih =>
      unfold ofDigits? at h ih
      rw [List.foldlM_append, Option.bind_eq_bind, Option.bind_eq_some_iff] at h
      obtain ⟨m, hm, h⟩ := h
      simp only [List.foldlM_cons, List.foldlM_nil, bind_pure, Option.bind_eq_some_iff] at h
      obtain ⟨d, hd, -⟩ := h
      exact List.forall_mem_append.mpr ⟨ih hm, List.forall_mem_singleton.mpr (lt_of_digitValue? hd)⟩

/-- What holds of single digits, and of digits with one more behind them, holds of every number. -/
theorem toDigits_induction {base : Nat} (hbase : 1 < base) {P : Nat → List Char → Prop}
    (hdigit : ∀ d < base, P d [Nat.digitChar d])
    (hmore : ∀ n digits, n ≠ 0 → P n digits → ∀ d < base,
      P (base * n + d) (digits ++ [Nat.digitChar d])) (n : Nat) : P n (Nat.toDigits base n) := by
  induction n using Nat.strong_induction_on with
  | _ n ih =>
      rw [Nat.toDigits_eq_if hbase]
      split
      next hn => exact hdigit n hn
      next hn =>
        have hfront : n / base ≠ 0 := Nat.div_ne_zero_iff.mpr ⟨by omega, by omega⟩
        have hless : n / base < n := Nat.div_lt_self (by omega) hbase
        have hlast : n % base < base := Nat.mod_lt n (by omega)
        have hnext := hmore (n / base) _ hfront (ih (n / base) hless) (n % base) hlast
        rwa [Nat.div_add_mod] at hnext

theorem ofDigits?_toDigits {base : Nat} (hbase : 1 < base) (hbound : base ≤ 16) (n : Nat) :
    ofDigits? base (Nat.toDigits base n) = some n := by
  refine toDigits_induction hbase (P := fun n digits => ofDigits? base digits = some n) ?_ ?_ n
  · intro d hd
    have hnone : ofDigits? base [] = some 0 := rfl
    have hone := ofDigits?_append_digitChar hbound hnone hd
    simpa using hone
  · intro n digits _ h d hd
    exact ofDigits?_append_digitChar hbound h hd

theorem exists_digitChar_of_mem_toDigits {base n : Nat} (hbase : 1 < base) :
    ∀ c ∈ Nat.toDigits base n, ∃ d < base, c = Nat.digitChar d := by
  refine toDigits_induction hbase
    (P := fun _ digits => ∀ c ∈ digits, ∃ d < base, c = Nat.digitChar d) ?_ ?_ n
  · intro d hd c hc
    exact ⟨d, hd, List.mem_singleton.mp hc⟩
  · intro n digits _ h d hd c hc
    rcases List.mem_append.mp hc with hc | hc
    · exact h c hc
    · exact ⟨d, hd, List.mem_singleton.mp hc⟩

theorem isAsciiDigit_of_mem_toDigits {n : Nat} : ∀ c ∈ Nat.toDigits 10 n, isAsciiDigit c = true := by
  intro c hc
  obtain ⟨d, hd, rfl⟩ := exists_digitChar_of_mem_toDigits (by decide) c hc
  exact isAsciiDigit_digitChar d hd

/-- The digits of a number are a zero, or they do not start with one. -/
theorem toDigits_eq_cons (n : Nat) :
    Nat.toDigits 10 n = ['0'] ∨ ∃ d ds, d ≠ '0' ∧ Nat.toDigits 10 n = d :: ds := by
  have h : (n ≠ 0 → ∃ d ds, d ≠ '0' ∧ Nat.toDigits 10 n = d :: ds) := by
    refine toDigits_induction (by decide)
      (P := fun n digits => n ≠ 0 → ∃ d ds, d ≠ '0' ∧ digits = d :: ds) ?_ ?_ n
    · intro d hd hne
      exact ⟨_, [], digitChar_ne_zero d hd hne, rfl⟩
    · intro n digits hn h d _ _
      obtain ⟨d', ds, hd', rfl⟩ := h hn
      exact ⟨d', _, hd', rfl⟩
  by_cases hn : n = 0
  · subst hn
    exact .inl rfl
  · exact .inr (h hn)

/-- A number is read back from its digits. -/
theorem decimal?_toDigits (n : Nat) : decimal? (Nat.toDigits 10 n) = some n := by
  unfold decimal?
  split
  next h => exact absurd h Nat.toDigits_ne_nil
  next => exact ofDigits?_toDigits (by decide) (by decide) n

/-- A number in front of anything but a digit is told by the text, and so is the rest. -/
theorem toDigits_append_inj {n n' : Nat} {s s' : List Char}
    (hs : ∀ c ∈ s.head?, isAsciiDigit c = false) (hs' : ∀ c ∈ s'.head?, isAsciiDigit c = false)
    (h : Nat.toDigits 10 n ++ s = Nat.toDigits 10 n' ++ s') : n = n' ∧ s = s' := by
  have hspan := congrArg (List.span isAsciiDigit) h
  rw [span_append isAsciiDigit_of_mem_toDigits hs, span_append isAsciiDigit_of_mem_toDigits hs',
    Prod.mk.injEq] at hspan
  obtain ⟨hdigits, hrest⟩ := hspan
  have hn := decimal?_toDigits n
  rw [hdigits, decimal?_toDigits n'] at hn
  exact ⟨(Option.some.inj hn).symm, hrest⟩

/-! ## Which number is read -/

/-- One or more digits and the number that they write, the most significant first. Zeros may stand in
front. -/
structure Numeral (digits : List Char) (n : Nat) : Prop where
  ne_nil : digits ≠ []
  isDigit : ∀ c ∈ digits, isAsciiDigit c = true
  value : Nat.ofDigits 10 (digits.reverse.map fun c => c.toNat - '0'.toNat) = n

/-- Only the digits up to nine have a value below ten. -/
theorem digitValue?_eq_some_lt_ten_iff {c : Char} {d : Nat} :
    (digitValue? c = some d ∧ d < 10) ↔ isAsciiDigit c = true ∧ d = c.toNat - '0'.toNat := by
  unfold digitValue?
  constructor
  · rintro ⟨hvalue, hlt⟩
    split at hvalue
    next hdigit => exact ⟨hdigit, (Option.some.inj hvalue).symm⟩
    next =>
      split at hvalue
      · have := Option.some.inj hvalue
        omega
      · split at hvalue
        · have := Option.some.inj hvalue
          omega
        · cases hvalue
  · rintro ⟨hdigit, rfl⟩
    have hrange := isAsciiDigit_iff.mp hdigit
    have hzero : '0'.toNat = 48 := rfl
    rw [if_pos hdigit]
    exact ⟨rfl, by omega⟩

/-- One more digit is read behind the others. -/
theorem ofDigits?_concat {digits : List Char} {c : Char} {n : Nat} :
    ofDigits? 10 (digits ++ [c]) = some n ↔
      ∃ m, ofDigits? 10 digits = some m ∧ isAsciiDigit c = true ∧
        n = 10 * m + (c.toNat - '0'.toNat) := by
  have hfold : ofDigits? 10 (digits ++ [c]) = (ofDigits? 10 digits).bind fun m =>
      (digitValue? c).bind fun d => if d < 10 then some (10 * m + d) else none := by
    unfold ofDigits?
    simp only [List.foldlM_append, List.foldlM_cons, List.foldlM_nil, bind_pure,
      Option.bind_eq_bind]
  rw [hfold, Option.bind_eq_some_iff]
  refine exists_congr fun m => and_congr_right fun _ => ?_
  rw [Option.bind_eq_some_iff]
  constructor
  · rintro ⟨d, hvalue, hsum⟩
    split at hsum
    next hlt =>
      obtain ⟨hdigit, rfl⟩ := digitValue?_eq_some_lt_ten_iff.mp ⟨hvalue, hlt⟩
      exact ⟨hdigit, (Option.some.inj hsum).symm⟩
    next => cases hsum
  · rintro ⟨hdigit, rfl⟩
    obtain ⟨hvalue, hlt⟩ := digitValue?_eq_some_lt_ten_iff.mpr ⟨hdigit, rfl⟩
    exact ⟨_, hvalue, if_pos hlt⟩

theorem ofDigits?_eq_some_iff {digits : List Char} {n : Nat} :
    ofDigits? 10 digits = some n ↔ (∀ c ∈ digits, isAsciiDigit c = true) ∧
      Nat.ofDigits 10 (digits.reverse.map fun c => c.toNat - '0'.toNat) = n := by
  induction digits using List.reverseRecOn generalizing n with
  | nil => simp [ofDigits?]
  | append_singleton digits c ih =>
      rw [ofDigits?_concat, List.reverse_append, List.reverse_singleton, List.singleton_append,
        List.map_cons, Nat.ofDigits_cons]
      constructor
      · rintro ⟨m, hread, hdigit, rfl⟩
        obtain ⟨hdigits, rfl⟩ := ih.mp hread
        refine ⟨?_, Nat.add_comm _ _⟩
        exact List.forall_mem_append.mpr ⟨hdigits, List.forall_mem_singleton.mpr hdigit⟩
      · rintro ⟨hall, rfl⟩
        obtain ⟨hdigits, hdigit⟩ := List.forall_mem_append.mp hall
        have hlast := hdigit c (List.mem_singleton_self c)
        exact ⟨_, ih.mpr ⟨hdigits, rfl⟩, hlast, Nat.add_comm _ _⟩

/-- Exactly the numerals are read, each as the number that it writes. -/
theorem decimal?_eq_some_iff {digits : List Char} {n : Nat} :
    decimal? digits = some n ↔ Numeral digits n := by
  cases digits with
  | nil =>
      constructor
      · rintro ⟨⟩
      · intro h
        exact absurd rfl h.ne_nil
  | cons c digits =>
      rw [decimal?, ofDigits?_eq_some_iff]
      · constructor
        · rintro ⟨hdigits, hvalue⟩
          exact ⟨List.cons_ne_nil c digits, hdigits, hvalue⟩
        · intro h
          exact ⟨h.isDigit, h.value⟩
      · exact List.cons_ne_nil c digits

/-- A plus sign is no digit. -/
theorem not_numeral_plus {digits : List Char} {n : Nat} : ¬ Numeral ('+' :: digits) n := by
  intro h
  cases h.isDigit '+' List.mem_cons_self

/-- A number below a limit is read from its numeral, with or without a plus sign. -/
theorem boundedDecimal?_eq_some_iff {limit n : Nat} {s : String} :
    boundedDecimal? limit s = some n ↔
      (Numeral s.toList n ∨ ∃ digits, s.toList = '+' :: digits ∧ Numeral digits n) ∧ n < limit := by
  have hbound : ∀ digits : List Char,
      ((decimal? digits).bind fun m => if m < limit then some m else none) = some n ↔
        Numeral digits n ∧ n < limit := by
    intro digits
    rw [Option.bind_eq_some_iff, ← decimal?_eq_some_iff]
    constructor
    · rintro ⟨m, hread, hm⟩
      split at hm
      next hlt =>
        obtain rfl := Option.some.inj hm
        exact ⟨hread, hlt⟩
      next => cases hm
    · rintro ⟨hread, hlt⟩
      exact ⟨n, hread, if_pos hlt⟩
  unfold boundedDecimal?
  split
  next digits hs =>
    rw [hs]
    refine (hbound digits).trans (and_congr_left fun _ => ?_)
    simp [not_numeral_plus]
  next hs =>
    refine (hbound s.toList).trans (and_congr_left fun _ => ?_)
    constructor
    · exact .inl
    · rintro (h | ⟨digits, hplus, -⟩)
      · exact h
      · exact absurd hplus (hs digits)

end PhoneVerification.Text
