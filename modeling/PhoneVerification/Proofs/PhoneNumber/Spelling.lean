import PhoneVerification.Proofs.PhoneNumber.Verifiable

/-!
# Spellings of a phone number

A number under the calling code of the default region may be written in four ways: with a plus sign,
with two zeros, with the national zero, or without any of them. `Written` lists these, and `Typed` says
what may be typed for each: fillers anywhere, and blanks around the whole. All spellings of a number
are brought into the same international form.
-/

namespace PhoneVerification.NumberValidator

/-- Some characters, and the same with spaces, dashes, dots, parentheses and slashes put in anywhere. -/
inductive Spaced : List Char → List Char → Prop
  | nil : Spaced [] []
  | keep (c : Char) {s t : List Char} (h : Spaced s t) : Spaced (c :: s) (c :: t)
  | filler {c : Char} (hc : c ∈ [' ', '-', '.', '(', ')', '/']) {s t : List Char} (h : Spaced s t) :
      Spaced s (c :: t)

/-- What may be typed for some characters, with blanks around the whole. -/
def Typed (s : List Char) (raw : String) : Prop :=
  ∃ before middle after, (∀ c ∈ before, Text.isBlank c = true) ∧
    (∀ c ∈ after, Text.isBlank c = true) ∧ Spaced s middle ∧
    raw.toList = before ++ middle ++ after

/-- The four ways to write a number under a calling code. -/
inductive Written (code national : List Char) : List Char → Prop
  | plus : Written code national ('+' :: (code ++ national))
  | zeros : Written code national ('0' :: '0' :: (code ++ national))
  | zero : Written code national ('0' :: national)
  | bare : Written code national national

/-- The international form of a national number, if it has the right length. -/
def internationalForm (code national : List Char) : Except PhoneRejection String :=
  if 7 ≤ (code ++ national).length ∧ (code ++ national).length ≤ 15 then
    .ok (String.ofList ('+' :: (code ++ national)))
  else .error .format

variable {v : NumberValidator} {raw : String} {s t code national digits : List Char}

theorem isFiller_iff {c : Char} : isFiller c = true ↔ c ∈ [' ', '-', '.', '(', ')', '/'] := by
  simp [isFiller, or_assoc]

/-! ## What is left of a spelling -/

namespace Spaced

/-- Without the fillers the characters are as they were. -/
theorem filter_eq (h : Spaced s t) (hs : ∀ c ∈ s, isFiller c = false) :
    t.filter (fun c => !isFiller c) = s := by
  induction h with
  | nil => rfl
  | keep c h ih =>
      obtain ⟨hc, hs⟩ := List.forall_mem_cons.mp hs
      rw [List.filter_cons_of_pos (by rw [hc, Bool.not_false]), ih hs]
  | filler hc h ih =>
      rw [List.filter_cons_of_neg (by rw [isFiller_iff.mpr hc]; decide), ih hs]

/-- Nothing but fillers was put in. -/
theorem isFiller_or_mem (h : Spaced s t) {c : Char} (hc : c ∈ t) : isFiller c = true ∨ c ∈ s := by
  induction h with
  | nil => cases hc
  | keep d h ih =>
      rcases List.mem_cons.mp hc with rfl | hc
      · exact .inr List.mem_cons_self
      · exact (ih hc).imp_right (List.mem_cons_of_mem d)
  | filler hd h ih =>
      rcases List.mem_cons.mp hc with rfl | hc
      · exact .inl (isFiller_iff.mpr hd)
      · exact ih hc

end Spaced

/-- Every text is what is left of it without the fillers, with these put in again. -/
theorem spaced_filter (t : List Char) : Spaced (t.filter fun c => !isFiller c) t := by
  induction t with
  | nil => exact .nil
  | cons c t ih =>
      cases hc : isFiller c with
      | true =>
          rw [List.filter_cons_of_neg (by rw [hc]; decide)]
          exact .filler (isFiller_iff.mp hc) ih
      | false =>
          rw [List.filter_cons_of_pos (by rw [hc, Bool.not_false])]
          exact .keep c ih

/-- Whatever was typed for digits and a plus sign, these are left. -/
theorem compact_of_typed (hs : ∀ c ∈ s, c = '+' ∨ Text.isAsciiDigit c = true) (h : Typed s raw) :
    compact raw = s := by
  obtain ⟨before, middle, after, hbefore, hafter, hspaced, hraw⟩ := h
  -- a blank in the middle is a filler, so it does not matter where the text is stripped
  have hblank : ∀ c ∈ middle, Text.isBlank c = true → (!isFiller c) = false := by
    intro c hc hblank
    rcases hspaced.isFiller_or_mem hc with hfiller | hmem
    · rw [hfiller, Bool.not_true]
    · rw [isBlank_eq_false (hs c hmem)] at hblank
      cases hblank
  calc compact raw
      = (Text.strip Text.isBlank middle).filter (fun c => !isFiller c) := by
        rw [compact, hraw, Text.strip_append hbefore hafter]
    _ = middle.filter (fun c => !isFiller c) := Text.filter_strip hblank
    _ = s := hspaced.filter_eq fun c hc => isFiller_eq_false (hs c hc)

/-! ## How the four ways are read -/

/-- A number without a plus sign is read by the zeros that it starts with. -/
theorem normalize_of_digits (v : NumberValidator) (hcompact : compact raw = digits)
    (hne : digits ≠ []) (hdigits : ∀ c ∈ digits, Text.isAsciiDigit c = true) :
    v.normalize raw =
      if isInternational (internationalDigits v.defaultCode.toList digits) then
        .ok (String.ofList ('+' :: internationalDigits v.defaultCode.toList digits))
      else .error .format := by
  have htyped := isEmpty_strip_of_compact (by rw [hcompact]; exact hne)
  obtain ⟨first, rest, rfl⟩ := List.exists_cons_of_ne_nil hne
  have hfirst : first ≠ '+' := by
    rintro rfl
    cases hdigits '+' List.mem_cons_self
  have hall : (first :: rest).all Text.isAsciiDigit = true := List.all_eq_true.mpr hdigits
  unfold compact at hcompact
  simp only [normalize, htyped, hcompact]
  simp [hfirst, hall]

theorem internationalDigits_zero (code : List Char) (h : national.head? ≠ some '0') :
    internationalDigits code ('0' :: national) = code ++ national := by
  cases national with
  | nil => rfl
  | cons first rest =>
      have hfirst : first ≠ '0' := by simpa using h
      simp [internationalDigits, hfirst]

theorem internationalDigits_bare (code : List Char) (h : national.head? ≠ some '0') :
    internationalDigits code national = code ++ national := by
  cases national with
  | nil => rfl
  | cons first rest =>
      have hfirst : first ≠ '0' := by simpa using h
      simp [internationalDigits, hfirst]

/-- What a calling code is made of. -/
structure IsCallingCode (code : List Char) : Prop where
  ne_nil : code ≠ []
  isDigit : ∀ c ∈ code, Text.isAsciiDigit c = true
  head : code.head? ≠ some '0'

theorem isCallingCode_of_known : ∀ r ∈ Region.known, r.callingCode.toList ≠ [] ∧
    r.callingCode.toList.all Text.isAsciiDigit = true ∧
    r.callingCode.toList.head? ≠ some '0' := by
  decide +kernel

/-- The national numbers of every validator belong to a known region. -/
theorem isCallingCode_defaultCode (defaultRegion : String) (allowed : List String) :
    IsCallingCode (ofRegions defaultRegion allowed).defaultCode.toList := by
  have hknown : ∃ r ∈ Region.known,
      (ofRegions defaultRegion allowed).defaultCode = r.callingCode := by
    unfold ofRegions Region.callingCode?
    cases hfind : Region.find? defaultRegion with
    | none => exact ⟨Region.netherlands, by decide, rfl⟩
    | some r => exact ⟨r, Region.mem_known_of_find? hfind, rfl⟩
  obtain ⟨r, hr, hcode⟩ := hknown
  obtain ⟨hne, hdigits, hhead⟩ := isCallingCode_of_known r hr
  rw [hcode]
  exact ⟨hne, List.all_eq_true.mp hdigits, hhead⟩

namespace IsCallingCode

/-- Under a calling code every number of the right length is international. -/
theorem eq_internationalForm (h : IsCallingCode code)
    (hdigits : ∀ c ∈ national, Text.isAsciiDigit c = true) :
    (if isInternational (code ++ national) then .ok (String.ofList ('+' :: (code ++ national)))
      else .error .format) = internationalForm code national := by
  have hall : ∀ c ∈ code ++ national, Text.isAsciiDigit c = true :=
    List.forall_mem_append.mpr ⟨h.isDigit, hdigits⟩
  have hhead : (code ++ national).head? ≠ some '0' := by
    rw [List.head?_append_of_ne_nil _ h.ne_nil]
    exact h.head
  have hlength : isInternational (code ++ national) = true ↔
      7 ≤ (code ++ national).length ∧ (code ++ national).length ≤ 15 := by
    rw [isInternational_eq_true_iff]
    exact ⟨fun hfull => hfull.2.2, fun hlength => ⟨hall, hhead, hlength⟩⟩
  exact if_congr hlength rfl rfl

/-- However a number is written, it is read as the international one. -/
theorem normalize_of_written (h : IsCallingCode v.defaultCode.toList) (hne : national ≠ [])
    (hdigits : ∀ c ∈ national, Text.isAsciiDigit c = true) (hhead : national.head? ≠ some '0')
    (hwritten : Written v.defaultCode.toList national s) (htyped : Typed s raw) :
    v.normalize raw = internationalForm v.defaultCode.toList national := by
  rw [← h.eq_internationalForm hdigits]
  have hfull : ∀ c ∈ v.defaultCode.toList ++ national, Text.isAsciiDigit c = true :=
    List.forall_mem_append.mpr ⟨h.isDigit, hdigits⟩
  have hfullne : v.defaultCode.toList ++ national ≠ [] := List.append_ne_nil_of_left_ne_nil h.ne_nil _
  have hzero : Text.isAsciiDigit '0' = true := rfl
  cases hwritten with
  | plus =>
      have hchars : ∀ c ∈ '+' :: (v.defaultCode.toList ++ national),
          c = '+' ∨ Text.isAsciiDigit c = true :=
        List.forall_mem_cons.mpr ⟨.inl rfl, fun c hc => .inr (hfull c hc)⟩
      exact normalize_of_plus v (compact_of_typed hchars htyped) hfullne hfull
  | zeros =>
      have hall : ∀ c ∈ '0' :: '0' :: (v.defaultCode.toList ++ national),
          Text.isAsciiDigit c = true :=
        List.forall_mem_cons.mpr ⟨hzero, List.forall_mem_cons.mpr ⟨hzero, hfull⟩⟩
      exact normalize_of_digits v (compact_of_typed (fun c hc => .inr (hall c hc)) htyped)
        (List.cons_ne_nil _ _) hall
  | zero =>
      have hall : ∀ c ∈ '0' :: national, Text.isAsciiDigit c = true :=
        List.forall_mem_cons.mpr ⟨hzero, hdigits⟩
      rw [normalize_of_digits v (compact_of_typed (fun c hc => .inr (hall c hc)) htyped)
        (List.cons_ne_nil _ _) hall, internationalDigits_zero _ hhead]
  | bare =>
      rw [normalize_of_digits v (compact_of_typed (fun c hc => .inr (hdigits c hc)) htyped) hne
        hdigits, internationalDigits_bare _ hhead]

end IsCallingCode

/-- A text is refused as empty if nothing but blanks was typed. -/
theorem normalize_eq_empty_iff (v : NumberValidator) (raw : String) :
    v.normalize raw = .error .empty ↔ ∀ c ∈ raw.toList, Text.isBlank c = true := by
  rw [← Text.strip_eq_nil_iff]
  rcases v.normalize_cases raw with ⟨hnil, hempty⟩ | ⟨hne, hformat | ⟨digits, hok, -⟩⟩
  · simp [hnil, hempty]
  · simp [hne, hformat]
  · simp [hne, hok]

/-- All spellings of a number are normalized alike: they give the international number if its length is
right, and are malformed otherwise. What was normalized once is left as it is by every validator, and
nothing but blanks counts as empty. -/
theorem normalize_spellings (defaultRegion : String) (allowed : List String) :
    (∀ national, national ≠ [] → (∀ c ∈ national, Text.isAsciiDigit c = true) →
      national.head? ≠ some '0' →
      ∀ s raw, Written (ofRegions defaultRegion allowed).defaultCode.toList national s →
        Typed s raw →
        (ofRegions defaultRegion allowed).normalize raw =
          internationalForm (ofRegions defaultRegion allowed).defaultCode.toList national) ∧
    (∀ raw e164, (ofRegions defaultRegion allowed).normalize raw = .ok e164 →
      ∀ w : NumberValidator, w.normalize e164 = .ok e164) ∧
    (∀ raw, (ofRegions defaultRegion allowed).normalize raw = .error .empty ↔
      ∀ c ∈ raw.toList, Text.isBlank c = true) := by
  refine ⟨?_, ?_, normalize_eq_empty_iff _⟩
  · intro national hne hdigits hhead s raw hwritten htyped
    exact (isCallingCode_defaultCode defaultRegion allowed).normalize_of_written hne hdigits hhead
      hwritten htyped
  · intro raw e164 h w
    obtain ⟨digits, rfl, hdigits⟩ := isInternational_of_normalize h
    exact w.normalize_of_isInternational hdigits

/-- The digits of a Belgian number. -/
def belgianDigits : List Char :=
  "470123456".toList

/-- A Belgian number typed with its national zero in brackets and with blanks around it. -/
theorem normalize_spellings_belgian :
    (belgianDigits ≠ [] ∧ (∀ c ∈ belgianDigits, Text.isAsciiDigit c = true) ∧
      belgianDigits.head? ≠ some '0' ∧
      Written (ofRegions "be" ["nl"]).defaultCode.toList belgianDigits ('0' :: belgianDigits) ∧
      Typed ('0' :: belgianDigits) "\t(0)470/12.34-56 \n") ∧
    (ofRegions "be" ["nl"]).normalize "\t(0)470/12.34-56 \n" = .ok "+32470123456" ∧
    ∀ w : NumberValidator, w.normalize "+32470123456" = .ok "+32470123456" := by
  obtain ⟨hspellings, hagain, -⟩ := normalize_spellings "be" ["nl"]
  have hne : belgianDigits ≠ [] := by decide
  have hdigits : ∀ c ∈ belgianDigits, Text.isAsciiDigit c = true :=
    List.all_eq_true.mp (by decide)
  have hhead : belgianDigits.head? ≠ some '0' := by decide
  have hfilter : "(0)470/12.34-56".toList.filter (fun c => !isFiller c) = '0' :: belgianDigits := by
    decide
  have hspaced : Spaced ('0' :: belgianDigits) "(0)470/12.34-56".toList :=
    hfilter ▸ spaced_filter _
  have htyped : Typed ('0' :: belgianDigits) "\t(0)470/12.34-56 \n" :=
    ⟨['\t'], _, [' ', '\n'], List.all_eq_true.mp (by decide), List.all_eq_true.mp (by decide),
      hspaced, by decide⟩
  have hnormalized := hspellings _ hne hdigits hhead _ _ .zero htyped
  have hok : (ofRegions "be" ["nl"]).normalize "\t(0)470/12.34-56 \n" = .ok "+32470123456" :=
    hnormalized.trans (by decide)
  exact ⟨⟨hne, hdigits, hhead, .zero, htyped⟩, hok, hagain _ _ hok⟩

end PhoneVerification.NumberValidator
