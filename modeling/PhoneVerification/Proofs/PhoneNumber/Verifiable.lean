import PhoneVerification.PhoneNumber.Validator
import PhoneVerification.Proofs.Text.Digits
import PhoneVerification.Proofs.Text.Strip
import Mathlib.Data.List.Infix

/-!
# The numbers that can be verified

`Verifiable` says which numbers can receive text messages in one of the allowed regions, without a
word about what a user may type. Every number that the validator gives is of this kind, and the
validator leaves exactly these numbers as they are, whatever its default region is
(`validate_iff_verifiable`).
-/

namespace PhoneVerification

/-- The digits of a number in a region that can receive text messages: an international number under
the calling code of the region. A Dutch one has nine digits more, which start with 6 or with 97. -/
structure Region.Serves (r : Region) (digits : List Char) : Prop where
  isDigit : ∀ c ∈ digits, Text.isAsciiDigit c = true
  head : digits.head? ≠ some '0'
  length : 7 ≤ digits.length ∧ digits.length ≤ 15
  callingCode : r.callingCode.toList <+: digits
  dutch : r.name = "NL" → ∃ national, digits = '3' :: '1' :: national ∧ national.length = 9 ∧
    (['6'] <+: national ∨ ['9', '7'] <+: national)

/-- A number that can be verified: a plus sign and digits in a known region, whose name is one of the
allowed names in capitals. -/
structure Verifiable (allowed : List String) (p : PhoneNumber) (region : Region)
    (digits : List Char) : Prop where
  number : p = ⟨String.ofList ('+' :: digits), some region.name⟩
  known : region ∈ Region.known
  allowed : ∃ name ∈ allowed, Text.upperAsciiText name = region.name
  serves : region.Serves digits

namespace Region

/-- No calling code is the beginning of another one. -/
theorem callingCodes_prefixFree :
    ∀ r ∈ known, ∀ r' ∈ known, r.callingCode.toList <+: r'.callingCode.toList → r = r' := by
  decide +kernel

/-- The digits of a number belong to at most one region. -/
theorem eq_of_callingCode_prefix {r r' : Region} (hr : r ∈ known) (hr' : r' ∈ known)
    {digits : List Char} (h : r.callingCode.toList <+: digits)
    (h' : r'.callingCode.toList <+: digits) : r = r' := by
  rcases Nat.le_total r.callingCode.toList.length r'.callingCode.toList.length with hle | hle
  · exact callingCodes_prefixFree r hr r' hr' (List.prefix_of_prefix_length_le h h' hle)
  · exact (callingCodes_prefixFree r' hr' r hr (List.prefix_of_prefix_length_le h' h hle)).symm

/-- No two regions have the same name, so a region is found under every spelling of its name. -/
theorem find?_of_upper {r : Region} (hr : r ∈ known) {name : String}
    (hname : Text.upperAsciiText name = r.name) : find? name = some r := by
  have hnames : ∀ r ∈ known, known.find? (fun r' => r'.name == r.name) = some r := by
    decide +kernel
  rw [find?, hname]
  exact hnames r hr

end Region

namespace NumberValidator

variable {digits : List Char}

theorem isInternational_eq_true_iff : isInternational digits = true ↔
    (∀ c ∈ digits, Text.isAsciiDigit c = true) ∧ digits.head? ≠ some '0' ∧
      7 ≤ digits.length ∧ digits.length ≤ 15 := by
  cases digits with
  | nil => simp [isInternational]
  | cons first rest =>
      simp only [isInternational, Bool.and_eq_true, List.all_eq_true, decide_eq_true_eq,
        bne_iff_ne, List.forall_mem_cons, List.head?_cons, ne_eq, Option.some.injEq,
        List.length_cons]
      constructor
      · rintro ⟨⟨⟨⟨hfirst, hzero⟩, hrest⟩, hmin⟩, hmax⟩
        exact ⟨⟨hfirst, hrest⟩, hzero, by omega, by omega⟩
      · rintro ⟨⟨hfirst, hrest⟩, hzero, hmin, hmax⟩
        exact ⟨⟨⟨⟨hfirst, hzero⟩, hrest⟩, by omega⟩, by omega⟩

/-- Digits and the plus sign are neither blank nor fillers. -/
theorem isBlank_eq_false {c : Char} (h : c = '+' ∨ Text.isAsciiDigit c = true) :
    Text.isBlank c = false := by
  rcases h with rfl | h
  · rfl
  · rw [Text.isAsciiDigit_iff] at h
    simp only [Text.isBlank, Bool.or_eq_false_iff, Bool.and_eq_false_iff, beq_eq_false_iff_ne,
      decide_eq_false_iff_not]
    omega

theorem isFiller_eq_false {c : Char} (h : c = '+' ∨ Text.isAsciiDigit c = true) :
    isFiller c = false := by
  rcases h with rfl | h
  · rfl
  · rw [Bool.eq_false_iff]
    intro hfiller
    simp only [isFiller, Bool.or_eq_true, beq_iff_eq] at hfiller
    rcases hfiller with ((((rfl | rfl) | rfl) | rfl) | rfl) | rfl
    all_goals exact absurd h (by decide)

/-- What was typed is empty, malformed, or brought into international form. -/
theorem normalize_cases (v : NumberValidator) (raw : String) :
    (Text.strip Text.isBlank raw.toList = [] ∧ v.normalize raw = .error .empty) ∨
      (Text.strip Text.isBlank raw.toList ≠ [] ∧ (v.normalize raw = .error .format ∨
        ∃ digits, v.normalize raw = .ok (String.ofList ('+' :: digits)) ∧
          isInternational digits = true)) := by
  simp only [normalize]
  split
  next hempty => exact .inl ⟨List.isEmpty_iff.mp hempty, rfl⟩
  next hempty =>
    refine .inr ⟨fun hnil => hempty (List.isEmpty_iff.mpr hnil), ?_⟩
    split
    next rest hcompact =>
      simp only [if_true]
      split
      · exact .inl rfl
      · split
        next hfull => exact .inr ⟨_, rfl, hfull⟩
        next => exact .inl rfl
    next hcompact =>
      simp only [Bool.false_eq_true, if_false]
      split
      · exact .inl rfl
      · split
        next hfull => exact .inr ⟨_, rfl, hfull⟩
        next => exact .inl rfl

/-- What is brought into international form is an international number. -/
theorem isInternational_of_normalize {v : NumberValidator} {raw s : String}
    (h : v.normalize raw = .ok s) :
    ∃ digits, s = String.ofList ('+' :: digits) ∧ isInternational digits = true := by
  rcases v.normalize_cases raw with ⟨-, hempty⟩ | ⟨-, hformat | ⟨digits, hok, hdigits⟩⟩
  · cases h.symm.trans hempty
  · cases h.symm.trans hformat
  · exact ⟨digits, Except.ok.inj (h.symm.trans hok), hdigits⟩

/-- The characters of what was typed that are neither blanks at an end nor fillers. -/
def compact (raw : String) : List Char :=
  (Text.strip Text.isBlank raw.toList).filter fun c => !isFiller c

theorem isEmpty_strip_of_compact {raw : String} (h : compact raw ≠ []) :
    (Text.strip Text.isBlank raw.toList).isEmpty = false := by
  rw [List.isEmpty_eq_false_iff]
  intro hnil
  apply h
  rw [compact, hnil, List.filter_nil]

/-- A number with a plus sign is international if its length is right. -/
theorem normalize_of_plus (v : NumberValidator) {raw : String} (hcompact : compact raw = '+' :: digits)
    (hne : digits ≠ []) (hdigits : ∀ c ∈ digits, Text.isAsciiDigit c = true) :
    v.normalize raw = if isInternational digits then .ok (String.ofList ('+' :: digits))
      else .error .format := by
  have htyped := isEmpty_strip_of_compact (by rw [hcompact]; exact List.cons_ne_nil _ _)
  have hnonempty : digits.isEmpty = false := List.isEmpty_eq_false_iff.mpr hne
  have hall : digits.all Text.isAsciiDigit = true := List.all_eq_true.mpr hdigits
  unfold compact at hcompact
  simp [normalize, htyped, hcompact, hnonempty, hall]

/-- An international number is in international form already. -/
theorem normalize_of_isInternational (v : NumberValidator) (h : isInternational digits = true) :
    v.normalize (String.ofList ('+' :: digits)) = .ok (String.ofList ('+' :: digits)) := by
  obtain ⟨hdigits, -, hmin, -⟩ := isInternational_eq_true_iff.mp h
  have hchars : ∀ c ∈ '+' :: digits, c = '+' ∨ Text.isAsciiDigit c = true :=
    List.forall_mem_cons.mpr ⟨.inl rfl, fun c hc => .inr (hdigits c hc)⟩
  have hcompact : compact (String.ofList ('+' :: digits)) = '+' :: digits := by
    rw [compact, String.toList_ofList,
      Text.strip_eq_self fun c hc => isBlank_eq_false (hchars c hc), List.filter_eq_self]
    intro c hc
    rw [isFiller_eq_false (hchars c hc), Bool.not_false]
  have hne : digits ≠ [] := by
    rintro rfl
    simp at hmin
  rw [normalize_of_plus v hcompact hne hdigits, if_pos h]

/-- Whether a line accepts text messages depends on the number in the Netherlands only. -/
theorem acceptsSms_lineType_iff {r : Region} :
    (∃ line, lineType r digits = .ok line ∧ line.acceptsSms = true) ↔
      (r.name = "NL" → digits.length = 11 ∧
        (['6'] <+: digits.drop 2 ∨ ['9', '7'] <+: digits.drop 2)) := by
  unfold lineType Region.netherlands
  by_cases hname : r.name = "NL"
  · by_cases hlength : digits.length = 11
    · simp only [hname, hlength, bne_self_eq_false, Bool.false_eq_true, if_false, true_and,
        forall_const]
      split
      next rest hnational => simp [LineType.acceptsSms, hnational, List.cons_prefix_cons]
      next rest hnational => simp [LineType.acceptsSms, hnational, List.cons_prefix_cons]
      next hsix hnineseven =>
        simp only [Except.ok.injEq, LineType.acceptsSms, exists_eq_left', bne_self_eq_false,
          Bool.false_eq_true, false_iff, not_or]
        constructor
        · rintro ⟨rest, hrest⟩
          exact hsix rest hrest.symm
        · rintro ⟨rest, hrest⟩
          exact hnineseven rest hrest.symm
    · simp [hname, hlength]
  · simp [hname, LineType.acceptsSms]

theorem mem_allowed_of_regionOf? {v : NumberValidator} {r : Region}
    (h : v.regionOf? digits = some r) : r ∈ v.allowed ∧ r.callingCode.toList <+: digits := by
  unfold regionOf? at h
  have hcode := List.find?_some h
  exact ⟨List.mem_of_find?_eq_some h, List.isPrefixOf_iff_prefix.mp hcode⟩

/-- The allowed region with the calling code of a number is found, as there is no other one. -/
theorem regionOf?_eq_some_iff {defaultRegion : String} {allowed : List String} {r : Region} :
    (ofRegions defaultRegion allowed).regionOf? digits = some r ↔
      r ∈ Region.known ∧ (∃ name ∈ allowed, Text.upperAsciiText name = r.name) ∧
        r.callingCode.toList <+: digits := by
  have hallowed : ∀ r, r ∈ (ofRegions defaultRegion allowed).allowed ↔
      r ∈ Region.known ∧ ∃ name ∈ allowed, Text.upperAsciiText name = r.name := by
    intro r
    simp only [ofRegions, List.mem_filterMap]
    constructor
    · rintro ⟨name, hname, hfound⟩
      exact ⟨Region.mem_known_of_find? hfound, name, hname, (Region.name_of_find? hfound).symm⟩
    · rintro ⟨hknown, name, hname, hupper⟩
      exact ⟨name, hname, Region.find?_of_upper hknown hupper⟩
  constructor
  · intro h
    obtain ⟨hmem, hcode⟩ := mem_allowed_of_regionOf? h
    obtain ⟨hknown, hname⟩ := (hallowed r).mp hmem
    exact ⟨hknown, hname, hcode⟩
  · rintro ⟨hknown, hname, hcode⟩
    have hsome : ((ofRegions defaultRegion allowed).regionOf? digits).isSome = true :=
      List.find?_isSome.mpr
        ⟨r, (hallowed r).mpr ⟨hknown, hname⟩, List.isPrefixOf_iff_prefix.mpr hcode⟩
    obtain ⟨r', hr'⟩ := Option.isSome_iff_exists.mp hsome
    obtain ⟨hmem, hcode'⟩ := mem_allowed_of_regionOf? hr'
    rw [hr', Region.eq_of_callingCode_prefix hknown ((hallowed r').mp hmem).1 hcode hcode']

/-- A number is accepted if it can be brought into international form, belongs to a region, and the
line accepts text messages. -/
theorem validate_eq_ok_iff {v : NumberValidator} {raw : String} {p : PhoneNumber} :
    v.validate raw = .ok p ↔ ∃ s r, v.normalize raw = .ok s ∧
      v.regionOf? s.toList.tail = some r ∧
      (∃ line, lineType r s.toList.tail = .ok line ∧ line.acceptsSms = true) ∧
      p = ⟨s, some r.name⟩ := by
  simp only [validate, List.drop_one]
  constructor
  · intro h
    cases hs : v.normalize raw with
    | error rejection => simp [hs, bind, Except.bind] at h
    | ok s =>
        simp only [hs, bind, Except.bind] at h
        cases hr : v.regionOf? s.toList.tail with
        | none => simp [hr] at h
        | some r =>
            simp only [hr] at h
            cases hline : lineType r s.toList.tail with
            | error rejection => simp [hline] at h
            | ok line =>
                simp only [hline] at h
                split at h
                next haccepts =>
                  exact ⟨s, r, rfl, hr, ⟨line, hline, haccepts⟩, (Except.ok.inj h).symm⟩
                next => contradiction
  · rintro ⟨s, r, hs, hr, ⟨line, hline, haccepts⟩, rfl⟩
    simp [hs, hr, hline, haccepts, bind, Except.bind]

/-- The condition on Dutch numbers, with or without their calling code. -/
theorem dutch_iff {r : Region} (hr : r ∈ Region.known) (hcode : r.callingCode.toList <+: digits) :
    (r.name = "NL" → digits.length = 11 ∧
        (['6'] <+: digits.drop 2 ∨ ['9', '7'] <+: digits.drop 2)) ↔
      (r.name = "NL" → ∃ national, digits = '3' :: '1' :: national ∧ national.length = 9 ∧
        (['6'] <+: national ∨ ['9', '7'] <+: national)) := by
  have hnetherlands : ∀ r ∈ Region.known, r.name = "NL" → r.callingCode.toList = ['3', '1'] := by
    decide +kernel
  refine forall_congr' fun hname => ?_
  rw [hnetherlands r hr hname] at hcode
  obtain ⟨national, rfl⟩ := hcode
  simp

/-- A validator accepts the texts that it can bring into the form of a number that can be verified. -/
theorem verifiable_of_validate {defaultRegion raw : String} {allowed : List String}
    {p : PhoneNumber} (h : (ofRegions defaultRegion allowed).validate raw = .ok p) :
    ∃ region digits, Verifiable allowed p region digits := by
  obtain ⟨s, r, hs, hr, hline, rfl⟩ := validate_eq_ok_iff.mp h
  obtain ⟨digits, rfl, hdigits⟩ := isInternational_of_normalize hs
  rw [String.toList_ofList, List.tail_cons] at hr hline
  obtain ⟨hknown, hname, hcode⟩ := regionOf?_eq_some_iff.mp hr
  obtain ⟨hisDigit, hhead, hlength⟩ := isInternational_eq_true_iff.mp hdigits
  have hdutch := (dutch_iff hknown hcode).mp (acceptsSms_lineType_iff.mp hline)
  exact ⟨r, digits, rfl, hknown, hname, hisDigit, hhead, hlength, hcode, hdutch⟩

/-- A number that can be verified is left as it is. -/
theorem validate_of_verifiable (defaultRegion : String) {allowed : List String} {p : PhoneNumber}
    {region : Region} (h : Verifiable allowed p region digits) :
    (ofRegions defaultRegion allowed).validate p.e164 = .ok p := by
  obtain ⟨rfl, hknown, hname, hserves⟩ := h
  have hinternational : isInternational digits = true :=
    isInternational_eq_true_iff.mpr ⟨hserves.isDigit, hserves.head, hserves.length⟩
  refine validate_eq_ok_iff.mpr ⟨_, region, normalize_of_isInternational _ hinternational, ?_⟩
  rw [String.toList_ofList, List.tail_cons]
  refine ⟨regionOf?_eq_some_iff.mpr ⟨hknown, hname, hserves.callingCode⟩, ?_, rfl⟩
  exact acceptsSms_lineType_iff.mpr ((dutch_iff hknown hserves.callingCode).mpr hserves.dutch)

/-- Whatever the default region is, what a validator accepts is a number that can be verified in one of
the allowed regions, and it leaves exactly these numbers as they are. So what it has accepted once, it
accepts again unchanged. -/
theorem validate_iff_verifiable (defaultRegion : String) (allowed : List String) :
    (∀ raw p, (ofRegions defaultRegion allowed).validate raw = .ok p →
      ∃ region digits, Verifiable allowed p region digits) ∧
    (∀ p, (ofRegions defaultRegion allowed).validate p.e164 = .ok p ↔
      ∃ region digits, Verifiable allowed p region digits) ∧
    (∀ raw p, (ofRegions defaultRegion allowed).validate raw = .ok p →
      (ofRegions defaultRegion allowed).validate p.e164 = .ok p) := by
  have hfixed : ∀ p, (∃ region digits, Verifiable allowed p region digits) →
      (ofRegions defaultRegion allowed).validate p.e164 = .ok p := by
    rintro p ⟨region, digits, h⟩
    exact validate_of_verifiable defaultRegion h
  refine ⟨fun raw p h => verifiable_of_validate h, fun p => ⟨verifiable_of_validate, hfixed p⟩, ?_⟩
  intro raw p h
  exact hfixed p (verifiable_of_validate h)

/-- A Dutch number typed with its national zero, where the allowed region is named in small letters. -/
theorem validate_national_number :
    (ofRegions "be" ["de", "nl"]).validate " 0031 6 1234-5678" = .ok ⟨"+31612345678", some "NL"⟩ ∧
      (ofRegions "be" ["de", "nl"]).validate "+31612345678" = .ok ⟨"+31612345678", some "NL"⟩ := by
  have h : (ofRegions "be" ["de", "nl"]).validate " 0031 6 1234-5678" =
      .ok ⟨"+31612345678", some "NL"⟩ := by decide +kernel
  exact ⟨h, (validate_iff_verifiable "be" ["de", "nl"]).2.2 _ _ h⟩

end NumberValidator

end PhoneVerification
