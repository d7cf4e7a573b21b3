import PhoneVerification.Json.Reader
import PhoneVerification.Proofs.Text.Digits

/-!
# Numbers in JSON texts

`NumberLiteral` is the grammar of numbers. A number is read up to its end wherever no further digit,
point or exponent follows (`number?_append`).
-/

namespace PhoneVerification.Json

/-- A list of one or more digits. -/
def Digits (s : List Char) : Prop :=
  s ≠ [] ∧ ∀ c ∈ s, Text.isAsciiDigit c = true

/-- The sign, the digits before and after the point and the exponent of a number. -/
structure NumberLiteral (sign whole fraction exponent : List Char) : Prop where
  sign : sign = [] ∨ sign = ['-']
  whole : whole = ['0'] ∨ Digits whole ∧ whole.head? ≠ some '0'
  fraction : fraction = [] ∨ ∃ digits, Digits digits ∧ fraction = '.' :: digits
  exponent : exponent = [] ∨ ∃ e sign digits, (e = 'e' ∨ e = 'E') ∧
    (sign = [] ∨ sign = ['+'] ∨ sign = ['-']) ∧ Digits digits ∧ exponent = e :: (sign ++ digits)

theorem NumberLiteral.exists_whole_eq {sign whole fraction exponent : List Char}
    (h : NumberLiteral sign whole fraction exponent) :
    ∃ d ds, Text.isAsciiDigit d = true ∧ whole = d :: ds := by
  rcases h.whole with rfl | ⟨⟨hne, hdigits⟩, -⟩
  · exact ⟨'0', [], by decide, rfl⟩
  · obtain ⟨d, ds, rfl⟩ := List.exists_cons_of_ne_nil hne
    exact ⟨d, ds, hdigits d List.mem_cons_self, rfl⟩

/-- A number starts with its sign or with a digit. -/
theorem NumberLiteral.exists_eq_cons {sign whole fraction exponent : List Char}
    (h : NumberLiteral sign whole fraction exponent) :
    ∃ c s, sign ++ whole ++ fraction ++ exponent = c :: s ∧
      (c = '-' ∨ Text.isAsciiDigit c = true) := by
  rcases h.sign with rfl | rfl
  · obtain ⟨d, ds, hd, rfl⟩ := h.exists_whole_eq
    exact ⟨d, ds ++ fraction ++ exponent, by simp, .inr hd⟩
  · exact ⟨'-', whole ++ fraction ++ exponent, by simp, .inl rfl⟩

theorem Digits.ascii {s : List Char} (h : Digits s) : ∀ c ∈ s, c.toNat < 0x80 := by
  intro c hc
  have hdigit := Text.isAsciiDigit_iff.mp (h.2 c hc)
  omega

/-- A number is written in ASCII. -/
theorem NumberLiteral.ascii {sign whole fraction exponent : List Char}
    (h : NumberLiteral sign whole fraction exponent) :
    ∀ c ∈ sign ++ whole ++ fraction ++ exponent, c.toNat < 0x80 := by
  have hsign : ∀ c ∈ sign, c.toNat < 0x80 := by
    rcases h.sign with rfl | rfl
    · exact List.forall_mem_nil _
    · exact List.forall_mem_singleton.mpr (by decide)
  have hwhole : ∀ c ∈ whole, c.toNat < 0x80 := by
    rcases h.whole with rfl | ⟨hdigits, -⟩
    · exact List.forall_mem_singleton.mpr (by decide)
    · exact hdigits.ascii
  have hfraction : ∀ c ∈ fraction, c.toNat < 0x80 := by
    rcases h.fraction with rfl | ⟨digits, hdigits, rfl⟩
    · exact List.forall_mem_nil _
    · exact List.forall_mem_cons.mpr ⟨by decide, hdigits.ascii⟩
  have hexponent : ∀ c ∈ exponent, c.toNat < 0x80 := by
    rcases h.exponent with rfl | ⟨e, mark, digits, he, hmark, hdigits, rfl⟩
    · exact List.forall_mem_nil _
    · refine List.forall_mem_cons.mpr ⟨?_, List.forall_mem_append.mpr ⟨?_, hdigits.ascii⟩⟩
      · rcases he with rfl | rfl <;> decide
      · rcases hmark with rfl | rfl | rfl
        · exact List.forall_mem_nil _
        · exact List.forall_mem_singleton.mpr (by decide)
        · exact List.forall_mem_singleton.mpr (by decide)
  simp only [List.forall_mem_append]
  exact ⟨⟨⟨hsign, hwhole⟩, hfraction⟩, hexponent⟩

/-- What may follow a value: nothing, a space, or a mark between values. -/
def Ended (rest : List Char) : Prop :=
  ∀ c ∈ rest.head?, isSpace c = true ∨ c = ',' ∨ c = ']' ∨ c = '\x7d'

namespace Reader

variable {s rest : List Char}

/-- No digit comes first. -/
def NoDigit (s : List Char) : Prop :=
  ∀ c ∈ s.head?, Text.isAsciiDigit c = false

theorem noDigit_cons {c : Char} (hc : Text.isAsciiDigit c = false) : NoDigit (c :: s) := by
  rintro d hd
  obtain rfl : c = d := Option.some.inj hd
  exact hc

theorem whole?_append {whole : List Char}
    (h : whole = ['0'] ∨ Digits whole ∧ whole.head? ≠ some '0') (hrest : NoDigit rest) :
    whole? (whole ++ rest) = some (whole, rest) := by
  rcases h with rfl | ⟨⟨hne, hdigits⟩, hhead⟩
  · rfl
  · have hspan := Text.span_append hdigits hrest
    unfold whole?
    split
    next tail htail =>
      obtain ⟨d, ds, rfl⟩ := List.exists_cons_of_ne_nil hne
      obtain ⟨rfl, -⟩ := List.cons.inj htail
      exact absurd rfl hhead
    next =>
      rw [hspan]
      split
      next hnil => exact absurd (Prod.mk.inj hnil).1 hne
      next => rfl

theorem fraction?_append {fraction : List Char}
    (h : fraction = [] ∨ ∃ digits, Digits digits ∧ fraction = '.' :: digits)
    (hrest : NoDigit rest) (hpoint : rest.head? ≠ some '.') :
    fraction? (fraction ++ rest) = some (fraction, rest) := by
  rcases h with rfl | ⟨digits, ⟨hne, hdigits⟩, rfl⟩
  · unfold fraction?
    split
    next tail htail =>
      rw [List.nil_append] at htail
      rw [htail] at hpoint
      exact absurd rfl hpoint
    next => rfl
  · rw [List.cons_append, fraction?, Text.span_append hdigits hrest]
    split
    next hnil => exact absurd (Prod.mk.inj hnil).1 hne
    next hpair =>
      obtain ⟨rfl, rfl⟩ := Prod.mk.inj hpair
      rfl

theorem exponent?_append {exponent : List Char}
    (h : exponent = [] ∨ ∃ e sign digits, (e = 'e' ∨ e = 'E') ∧
      (sign = [] ∨ sign = ['+'] ∨ sign = ['-']) ∧ Digits digits ∧
        exponent = e :: (sign ++ digits))
    (hrest : NoDigit rest) (he : rest.head? ≠ some 'e') (hE : rest.head? ≠ some 'E') :
    exponent? (exponent ++ rest) = some (exponent, rest) := by
  rcases h with rfl | ⟨e, sign, digits, hmark, hsign, ⟨hne, hdigits⟩, rfl⟩
  · cases rest with
    | nil => rfl
    | cons c rest =>
        have hc : (c == 'e' || c == 'E') = false := by
          simp only [List.head?_cons, ne_eq, Option.some.injEq] at he hE
          simp [he, hE]
        unfold exponent?
        exact if_neg (Bool.eq_false_iff.mp hc)
  · have hmark' : (e == 'e' || e == 'E') = true := by simpa using hmark
    obtain ⟨d, ds, rfl⟩ := List.exists_cons_of_ne_nil hne
    have hspan := Text.span_append hdigits hrest
    have hd := hdigits d List.mem_cons_self
    rw [List.cons_append] at hspan
    have hplus : d ≠ '+' := by
      rintro rfl
      exact absurd hd (by decide)
    have hminus : d ≠ '-' := by
      rintro rfl
      exact absurd hd (by decide)
    unfold exponent?
    rcases hsign with rfl | rfl | rfl
    · simp [hmark', hspan, hplus, hminus, -List.span_eq_takeWhile_dropWhile]
    · simp [hmark', hspan, -List.span_eq_takeWhile_dropWhile]
    · simp [hmark', hspan, -List.span_eq_takeWhile_dropWhile]

/-- What may follow a value does not go on a number. -/
theorem head?_ne_of_ended (h : Ended rest) {c : Char} (hspace : isSpace c = false)
    (hmark : c ≠ ',' ∧ c ≠ ']' ∧ c ≠ '\x7d') : rest.head? ≠ some c := by
  intro hc
  rcases h c hc with h | rfl | rfl | rfl
  · exact Bool.eq_false_iff.mp hspace h
  · exact hmark.1 rfl
  · exact hmark.2.1 rfl
  · exact hmark.2.2 rfl

theorem noDigit_of_ended (h : Ended rest) : NoDigit rest := by
  intro c hc
  rw [Bool.eq_false_iff]
  intro hdigit
  rw [Text.isAsciiDigit_iff] at hdigit
  refine head?_ne_of_ended h ?_ ⟨?_, ?_, ?_⟩ hc
  · simp only [isSpace, Bool.or_eq_false_iff, beq_eq_false_iff_ne]
    refine ⟨⟨⟨?_, ?_⟩, ?_⟩, ?_⟩
    all_goals
      rintro rfl
      exact absurd hdigit (by decide)
  all_goals
    rintro rfl
    exact absurd hdigit (by decide)

/-- A number is read up to its end. -/
theorem number?_append {sign whole fraction exponent : List Char}
    (h : NumberLiteral sign whole fraction exponent) (hrest : Ended rest) :
    number? (sign ++ (whole ++ (fraction ++ (exponent ++ rest)))) =
      some (sign ++ whole ++ fraction ++ exponent, rest) := by
  have hexponent : exponent? (exponent ++ rest) = some (exponent, rest) :=
    exponent?_append h.exponent (noDigit_of_ended hrest)
      (head?_ne_of_ended hrest (by decide) (by decide))
      (head?_ne_of_ended hrest (by decide) (by decide))
  have hpower : NoDigit (exponent ++ rest) ∧ (exponent ++ rest).head? ≠ some '.' := by
    rcases h.exponent with rfl | ⟨e, sign, digits, rfl | rfl, -, -, rfl⟩
    · exact ⟨noDigit_of_ended hrest, head?_ne_of_ended hrest (by decide) (by decide)⟩
    · exact ⟨noDigit_cons (by decide), by simp⟩
    · exact ⟨noDigit_cons (by decide), by simp⟩
  have hfraction : fraction? (fraction ++ (exponent ++ rest)) = some (fraction, exponent ++ rest) :=
    fraction?_append h.fraction hpower.1 hpower.2
  have hpoint : NoDigit (fraction ++ (exponent ++ rest)) := by
    rcases h.fraction with rfl | ⟨digits, -, rfl⟩
    · exact hpower.1
    · exact noDigit_cons (by decide)
  have hwhole := whole?_append h.whole hpoint
  have hread : ∀ sign : List Char,
      ((whole? (whole ++ (fraction ++ (exponent ++ rest)))).bind fun digits =>
        (fraction? digits.2).bind fun point =>
        (exponent? point.2).bind fun power =>
          some (sign ++ digits.1 ++ point.1 ++ power.1, power.2)) =
        some (sign ++ whole ++ fraction ++ exponent, rest) := by
    intro sign
    rw [hwhole, Option.bind_some, hfraction, Option.bind_some, hexponent, Option.bind_some]
  obtain ⟨d, ds, hd, rfl⟩ := h.exists_whole_eq
  unfold number?
  rcases h.sign with rfl | rfl
  · split
    next sign' rest' hsplit =>
      split at hsplit
      next r hr =>
        obtain ⟨rfl, -⟩ := List.cons.inj hr
        exact absurd hd (by decide)
      next =>
        obtain ⟨rfl, rfl⟩ := Prod.mk.inj hsplit
        exact hread []
  · exact hread ['-']

/-- A number is written with its digits only. -/
theorem numberLiteral_toDigits (n : Nat) : NumberLiteral [] (Nat.toDigits 10 n) [] [] where
  sign := .inl rfl
  whole := by
    rcases Text.toDigits_eq_cons n with h | ⟨d, ds, hd, h⟩
    · exact .inl h
    · refine .inr ⟨⟨Nat.toDigits_ne_nil, Text.isAsciiDigit_of_mem_toDigits⟩, ?_⟩
      rw [h]
      simpa using hd
  fraction := .inl rfl
  exponent := .inl rfl

end Reader

end PhoneVerification.Json
