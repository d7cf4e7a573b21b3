import PhoneVerification.Proofs.PhoneNumber.Verifiable

/-!
# The allowed regions as a set

The allowed regions are given as a list of names, and the first of them whose calling code starts a
number is taken for its region. As no calling code is the beginning of another one, the list counts as a
set: it decides whether a number is covered, and a number that is covered is validated as if all known
regions were allowed (`allowed_as_set`). Neither the order of the names nor the case of their letters
matters, and further names only let in numbers that belonged to no allowed region before.
-/

namespace PhoneVerification.NumberValidator

/-- A known region with the calling code of the digits is named, in letters of either case. -/
def Covers (allowed : List String) (digits : List Char) : Prop :=
  ∃ r ∈ Region.known, (∃ name ∈ allowed, Text.upperAsciiText name = r.name) ∧
    r.callingCode.toList <+: digits

/-- Every name of the one list is in the other, in letters of either case. -/
def NamesWithin (allowed allowed' : List String) : Prop :=
  ∀ name ∈ allowed, ∃ name' ∈ allowed', Text.upperAsciiText name' = Text.upperAsciiText name

instance (allowed : List String) (digits : List Char) : Decidable (Covers allowed digits) :=
  inferInstanceAs (Decidable (∃ r ∈ Region.known,
    (∃ name ∈ allowed, Text.upperAsciiText name = r.name) ∧ r.callingCode.toList <+: digits))

instance (allowed allowed' : List String) : Decidable (NamesWithin allowed allowed') :=
  inferInstanceAs (Decidable (∀ name ∈ allowed, ∃ name' ∈ allowed',
    Text.upperAsciiText name' = Text.upperAsciiText name))

variable {v w : NumberValidator} {raw e164 defaultRegion : String} {allowed allowed' : List String}
  {digits : List Char}

theorem Covers.mono (hnames : NamesWithin allowed allowed') (h : Covers allowed digits) :
    Covers allowed' digits := by
  obtain ⟨r, hknown, ⟨name, hname, hupper⟩, hcode⟩ := h
  obtain ⟨name', hname', hsame⟩ := hnames name hname
  exact ⟨r, hknown, ⟨name', hname', hsame.trans hupper⟩, hcode⟩

/-! ## The region of a number -/

/-- Every region is named among all of them. -/
theorem exists_name_of_known {r : Region} (hr : r ∈ Region.known) :
    ∃ name ∈ Region.known.map Region.name, Text.upperAsciiText name = r.name := by
  have hcapitals : ∀ r ∈ Region.known, Text.upperAsciiText r.name = r.name := by
    decide +kernel
  exact ⟨r.name, List.mem_map_of_mem hr, hcapitals r hr⟩

/-- The region of a number that is covered does not depend on what else is allowed. -/
theorem regionOf?_of_covers (h : Covers allowed digits) :
    (ofRegions defaultRegion allowed).regionOf? digits =
      (ofRegions defaultRegion (Region.known.map Region.name)).regionOf? digits := by
  obtain ⟨r, hknown, hname, hcode⟩ := h
  rw [regionOf?_eq_some_iff.mpr ⟨hknown, hname, hcode⟩,
    regionOf?_eq_some_iff.mpr ⟨hknown, exists_name_of_known hknown, hcode⟩]

theorem regionOf?_of_not_covers (h : ¬ Covers allowed digits) :
    (ofRegions defaultRegion allowed).regionOf? digits = none := by
  rw [Option.eq_none_iff_forall_ne_some]
  intro r hr
  exact h ⟨r, regionOf?_eq_some_iff.mp hr⟩

/-! ## The result for a number -/

/-- What cannot be brought into international form is refused as such. -/
theorem validate_of_normalize_error {rejection : PhoneRejection}
    (h : v.normalize raw = .error rejection) : v.validate raw = .error rejection := by
  rw [validate, h]
  rfl

/-- A number of no allowed region is refused. -/
theorem validate_of_regionOf?_none (h : v.normalize raw = .ok e164)
    (hregion : v.regionOf? e164.toList.tail = none) :
    v.validate raw = .error .unsupportedRegion := by
  rw [← List.drop_one] at hregion
  simp only [validate, h, bind, Except.bind, hregion]

/-- The allowed regions matter for the region of a number only. -/
theorem validate_congr (hv : v.normalize raw = .ok e164) (hw : w.normalize raw = .ok e164)
    (hregion : v.regionOf? e164.toList.tail = w.regionOf? e164.toList.tail) :
    v.validate raw = w.validate raw := by
  rw [← List.drop_one] at hregion
  simp only [validate, hv, hw, bind, Except.bind, hregion]

/-- How a text is brought into international form does not depend on the allowed regions. -/
theorem normalize_ofRegions (defaultRegion : String) (allowed allowed' : List String) (raw : String) :
    (ofRegions defaultRegion allowed).normalize raw =
      (ofRegions defaultRegion allowed').normalize raw :=
  rfl

theorem validate_of_covers (h : (ofRegions defaultRegion allowed).normalize raw = .ok e164)
    (hcovers : Covers allowed e164.toList.tail) :
    (ofRegions defaultRegion allowed).validate raw =
      (ofRegions defaultRegion (Region.known.map Region.name)).validate raw := by
  apply validate_congr h
  · rw [← h]
    exact normalize_ofRegions defaultRegion _ _ raw
  · exact regionOf?_of_covers hcovers

/-- With more names a result stays, unless there was no region for the number. -/
theorem validate_eq_or_unsupported (hnames : NamesWithin allowed allowed') :
    (ofRegions defaultRegion allowed').validate raw =
        (ofRegions defaultRegion allowed).validate raw ∨
      (ofRegions defaultRegion allowed).validate raw = .error .unsupportedRegion := by
  have hnormalize := normalize_ofRegions defaultRegion allowed' allowed raw
  cases h : (ofRegions defaultRegion allowed).normalize raw with
  | error rejection =>
      apply Or.inl
      rw [h] at hnormalize
      rw [validate_of_normalize_error h, validate_of_normalize_error hnormalize]
  | ok e164 =>
      rw [h] at hnormalize
      by_cases hcovers : Covers allowed e164.toList.tail
      · apply Or.inl
        rw [validate_of_covers h hcovers, validate_of_covers hnormalize (hcovers.mono hnames)]
      · exact .inr (validate_of_regionOf?_none h (regionOf?_of_not_covers hcovers))

/-- The allowed list counts as a set of regions. What cannot be normalized is refused as such, a number
of no named region is unsupported, and every other number is validated as if all known regions were
allowed. So lists with the same names give the same results, in whatever order, number and letter case
the names stand there, and more names change the result only for numbers that were unsupported. -/
theorem allowed_as_set (defaultRegion : String) (allowed : List String) (raw : String) :
    (∀ rejection, (ofRegions defaultRegion allowed).normalize raw = .error rejection →
      (ofRegions defaultRegion allowed).validate raw = .error rejection) ∧
    (∀ e164, (ofRegions defaultRegion allowed).normalize raw = .ok e164 →
      (¬ Covers allowed e164.toList.tail →
        (ofRegions defaultRegion allowed).validate raw = .error .unsupportedRegion) ∧
      (Covers allowed e164.toList.tail →
        (ofRegions defaultRegion allowed).validate raw =
          (ofRegions defaultRegion (Region.known.map Region.name)).validate raw)) ∧
    (∀ allowed', NamesWithin allowed allowed' → NamesWithin allowed' allowed →
      (ofRegions defaultRegion allowed').validate raw =
        (ofRegions defaultRegion allowed).validate raw) ∧
    (∀ allowed', NamesWithin allowed allowed' →
      (ofRegions defaultRegion allowed').validate raw ≠
        (ofRegions defaultRegion allowed).validate raw →
      (ofRegions defaultRegion allowed).validate raw = .error .unsupportedRegion) := by
  refine ⟨fun _ => validate_of_normalize_error, fun e164 h => ⟨?_, validate_of_covers h⟩, ?_, ?_⟩
  · intro hcovers
    exact validate_of_regionOf?_none h (regionOf?_of_not_covers hcovers)
  · intro allowed' hmore hless
    rcases validate_eq_or_unsupported hmore with heq | hrefused
    · exact heq
    · rcases validate_eq_or_unsupported hless with heq | hrefused'
      · exact heq.symm
      · rw [hrefused, hrefused']
  · intro allowed' hmore hne
    exact (validate_eq_or_unsupported hmore).resolve_left hne

/-- A Dutch number, where the Netherlands are named twice and beside an unknown region, where the same
is named in another way, and where only another region is named. -/
theorem allowed_as_set_dutch :
    ((ofRegions "be" ["nl", "XX", "Nl", "de"]).normalize "0031 6 1234-5678" = .ok "+31612345678" ∧
      Covers ["nl", "XX", "Nl", "de"] "+31612345678".toList.tail ∧
      (ofRegions "be" ["nl", "XX", "Nl", "de"]).validate "0031 6 1234-5678" =
        (ofRegions "be" (Region.known.map Region.name)).validate "0031 6 1234-5678") ∧
    ((ofRegions "be" ["nl", "XX", "Nl", "de"]).normalize "0032/1" = .error .format ∧
      (ofRegions "be" ["nl", "XX", "Nl", "de"]).validate "0032/1" = .error .format) ∧
    (NamesWithin ["nl", "XX", "Nl", "de"] ["DE", "xx", "NL"] ∧
      NamesWithin ["DE", "xx", "NL"] ["nl", "XX", "Nl", "de"] ∧
      (ofRegions "be" ["DE", "xx", "NL"]).validate "0031 6 1234-5678" =
        (ofRegions "be" ["nl", "XX", "Nl", "de"]).validate "0031 6 1234-5678") ∧
    (NamesWithin ["de"] ["DE", "xx", "NL"] ∧
      (ofRegions "be" ["DE", "xx", "NL"]).validate "0031 6 1234-5678" ≠
        (ofRegions "be" ["de"]).validate "0031 6 1234-5678" ∧
      (ofRegions "be" ["de"]).validate "0031 6 1234-5678" = .error .unsupportedRegion) := by
  obtain ⟨-, hnumber, hsame, -⟩ :=
    allowed_as_set "be" ["nl", "XX", "Nl", "de"] "0031 6 1234-5678"
  refine ⟨?_, ?_, ?_, ?_⟩
  · have hnormalize : (ofRegions "be" ["nl", "XX", "Nl", "de"]).normalize "0031 6 1234-5678" =
        .ok "+31612345678" := by
      decide +kernel
    have hcovers : Covers ["nl", "XX", "Nl", "de"] "+31612345678".toList.tail := by
      decide +kernel
    exact ⟨hnormalize, hcovers, (hnumber _ hnormalize).2 hcovers⟩
  · obtain ⟨hmalformed, -, -, -⟩ := allowed_as_set "be" ["nl", "XX", "Nl", "de"] "0032/1"
    have hnormalize : (ofRegions "be" ["nl", "XX", "Nl", "de"]).normalize "0032/1" =
        .error .format := by
      decide +kernel
    exact ⟨hnormalize, hmalformed _ hnormalize⟩
  · have hwithin : NamesWithin ["nl", "XX", "Nl", "de"] ["DE", "xx", "NL"] := by
      decide +kernel
    have hwithin' : NamesWithin ["DE", "xx", "NL"] ["nl", "XX", "Nl", "de"] := by
      decide +kernel
    exact ⟨hwithin, hwithin', hsame _ hwithin hwithin'⟩
  · obtain ⟨-, -, -, hmore⟩ := allowed_as_set "be" ["de"] "0031 6 1234-5678"
    have hwithin : NamesWithin ["de"] ["DE", "xx", "NL"] := by
      decide +kernel
    have hne : (ofRegions "be" ["DE", "xx", "NL"]).validate "0031 6 1234-5678" ≠
        (ofRegions "be" ["de"]).validate "0031 6 1234-5678" := by
      decide +kernel
    exact ⟨hwithin, hne, hmore _ hwithin hne⟩

end PhoneVerification.NumberValidator
