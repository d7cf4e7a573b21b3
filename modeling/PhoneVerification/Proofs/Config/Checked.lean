import PhoneVerification.Flow.Services
import PhoneVerification.Proofs.PhoneNumber.Spelling
import PhoneVerification.Wire

/-!
# Checked configurations

A flow can run with any configuration: a region that is not known is skipped, an unknown default region
stands for the Netherlands, and a session is looked at once at least. None of this happens with a
configuration that passes the check (`UsedInFull`), and one that has its addresses fails the check only
where it would happen (`Corrected`).
-/

namespace PhoneVerification.Config

variable {c d : Config}

theorem validate_eq_ok_iff : c.validate = .ok d ↔ d = c ∧ c.issue? = none := by
  unfold validate
  cases c.issue? with
  | none => simp [eq_comm]
  | some issue => simp

theorem validate_eq_error_iff {i : ConfigIssue} : c.validate = .error i ↔ c.issue? = some i := by
  unfold validate
  cases c.issue? with
  | none => simp
  | some issue => simp

/-- A text that can be read is checked as what is read of it. -/
theorem ofText_eq_validate {text : String} (h : Wire.decode? text = some c) :
    ofText text = c.validate := by
  rw [ofText, h]

theorem ofText_eq_ok_iff {text : String} :
    ofText text = .ok c ↔ Wire.decode? text = some c ∧ c.validate = .ok c := by
  constructor
  · intro h
    cases hread : (Wire.decode? text : Option Config) with
    | none =>
        rw [ofText, hread] at h
        cases h
    | some d =>
        rw [ofText_eq_validate hread] at h
        obtain ⟨rfl, -⟩ := validate_eq_ok_iff.mp h
        exact ⟨rfl, h⟩
  · rintro ⟨hread, hsound⟩
    rw [ofText_eq_validate hread, hsound]

/-- Nothing is wrong with a configuration if it has both addresses, all its regions are known, and some
polls are allowed. -/
theorem issue?_eq_none_iff :
    c.issue? = none ↔ Text.isBlankText c.apiBase = false ∧
      Text.isBlankText c.issuanceServer = false ∧ (Region.find? c.defaultRegion).isSome = true ∧
      (∀ name ∈ c.allowedRegions, (Region.find? name).isSome = true) ∧ c.sessionPollMax ≠ 0 := by
  have hregions : c.allowedRegions.find? (fun name => (Region.find? name).isNone) = none ↔
      ∀ name ∈ c.allowedRegions, (Region.find? name).isSome = true := by
    rw [List.find?_eq_none]
    simp only [Option.isNone_iff_eq_none, ← Option.isSome_iff_ne_none]
  rw [← hregions]
  unfold issue?
  cases Text.isBlankText c.apiBase with
  | true => simp
  | false =>
      cases Text.isBlankText c.issuanceServer with
      | true => simp
      | false =>
          cases Region.find? c.defaultRegion with
          | none => simp
          | some region =>
              cases c.allowedRegions.find? fun name => (Region.find? name).isNone with
              | some name => simp
              | none => simp

/-- The regions, the calling code and the number of polls that a flow uses are those that are
configured. -/
structure UsedInFull (c : Config) : Prop where
  regions : (NumberValidator.ofConfig c).allowed.map (fun r => (r.name, some r.callingCode)) =
    c.allowedRegions.map fun name => (Text.upperAsciiText name, Region.callingCode? name)
  defaultCode : Region.callingCode? c.defaultRegion = some (NumberValidator.ofConfig c).defaultCode
  national : ∀ code national s raw, Region.callingCode? c.defaultRegion = some code →
    national ≠ [] → (∀ d ∈ national, Text.isAsciiDigit d = true) → national.head? ≠ some '0' →
    NumberValidator.Written code.toList national s → NumberValidator.Typed s raw →
    (NumberValidator.ofConfig c).normalize raw =
      NumberValidator.internationalForm code.toList national
  polls : (PollBudget.ofConfig c).polls = c.sessionPollMax.toNat

/-- What a flow uses differs from what is configured. -/
inductive Corrected (c : Config) : Prop
  | skippedRegion
      (h : (NumberValidator.ofConfig c).allowed.length < c.allowedRegions.length)
  | otherCode
      (h : Region.callingCode? c.defaultRegion ≠ some (NumberValidator.ofConfig c).defaultCode)
  | raisedBudget (h : c.sessionPollMax.toNat < (PollBudget.ofConfig c).polls)

/-! ## What each part is used for -/

/-- A known region stands for itself, with its name in capitals. -/
theorem map_allowed_eq (h : ∀ name ∈ c.allowedRegions, (Region.find? name).isSome = true) :
    (NumberValidator.ofConfig c).allowed.map (fun r => (r.name, some r.callingCode)) =
      c.allowedRegions.map fun name => (Text.upperAsciiText name, Region.callingCode? name) := by
  unfold NumberValidator.ofConfig NumberValidator.ofRegions
  rw [List.map_filterMap, List.filterMap_eq_map_iff_forall_eq_some]
  intro name hname
  obtain ⟨r, hr⟩ := Option.isSome_iff_exists.mp (h name hname)
  rw [Region.callingCode?, hr, Option.map_some, Option.map_some, Region.name_of_find? hr]

theorem length_allowed_lt_iff :
    (NumberValidator.ofConfig c).allowed.length < c.allowedRegions.length ↔
      ¬ ∀ name ∈ c.allowedRegions, (Region.find? name).isSome = true := by
  unfold NumberValidator.ofConfig NumberValidator.ofRegions
  rw [List.length_filterMap_lt_length_iff_exists]
  simp

/-- The calling code of the default region is used if that region is known. -/
theorem callingCode?_eq_some_iff :
    Region.callingCode? c.defaultRegion = some (NumberValidator.ofConfig c).defaultCode ↔
      (Region.find? c.defaultRegion).isSome = true := by
  unfold NumberValidator.ofConfig NumberValidator.ofRegions Region.callingCode?
  cases Region.find? c.defaultRegion with
  | none => simp
  | some r => simp

theorem polls_eq_iff : (PollBudget.ofConfig c).polls = c.sessionPollMax.toNat ↔
    c.sessionPollMax ≠ 0 := by
  have hzero : c.sessionPollMax = 0 ↔ c.sessionPollMax.toNat = 0 := UInt32.toNat_inj.symm
  change max 1 c.sessionPollMax.toNat = c.sessionPollMax.toNat ↔ _
  rw [ne_eq, hzero]
  omega

theorem lt_polls_iff : c.sessionPollMax.toNat < (PollBudget.ofConfig c).polls ↔
    c.sessionPollMax = 0 := by
  rw [← not_ne_iff, ← polls_eq_iff]
  change c.sessionPollMax.toNat < max 1 c.sessionPollMax.toNat ↔
    ¬ max 1 c.sessionPollMax.toNat = c.sessionPollMax.toNat
  omega

/-! ## The check and the use -/

theorem usedInFull_of_issue?_eq_none (h : c.issue? = none) : c.UsedInFull := by
  obtain ⟨-, -, hdefault, hregions, hpolls⟩ := issue?_eq_none_iff.mp h
  have hcode := callingCode?_eq_some_iff.mpr hdefault
  refine ⟨map_allowed_eq hregions, hcode, ?_, polls_eq_iff.mpr hpolls⟩
  intro code national s raw hconfigured hne hdigits hhead hwritten htyped
  obtain rfl := Option.some.inj (hcode.symm.trans hconfigured)
  have hcalling := NumberValidator.isCallingCode_defaultCode c.defaultRegion c.allowedRegions
  exact hcalling.normalize_of_written hne hdigits hhead hwritten htyped

/-- With both addresses, the check fails exactly where something is corrected. -/
theorem issue?_eq_none_iff_not_corrected (hbase : Text.isBlankText c.apiBase = false)
    (hserver : Text.isBlankText c.issuanceServer = false) :
    c.issue? = none ↔ ¬ c.Corrected := by
  rw [issue?_eq_none_iff]
  constructor
  · rintro ⟨-, -, hdefault, hregions, hpolls⟩ hcorrected
    cases hcorrected with
    | skippedRegion h => exact length_allowed_lt_iff.mp h hregions
    | otherCode h => exact h (callingCode?_eq_some_iff.mpr hdefault)
    | raisedBudget h => exact hpolls (lt_polls_iff.mp h)
  · intro hnone
    refine ⟨hbase, hserver, ?_, ?_, ?_⟩
    · rw [← callingCode?_eq_some_iff]
      by_contra h
      exact hnone (.otherCode h)
    · by_contra h
      exact hnone (.skippedRegion (length_allowed_lt_iff.mpr h))
    · intro h
      exact hnone (.raisedBudget (lt_polls_iff.mpr h))

/-- A configuration that passes the check is used in full. One with both addresses fails it exactly if
a region would be skipped, national numbers would be read with another calling code, or the number of
polls would be raised. -/
theorem checked_used_in_full :
    (∀ c : Config, c.validate = .ok c → c.UsedInFull) ∧
    (∀ c : Config, Text.isBlankText c.apiBase = false → Text.isBlankText c.issuanceServer = false →
      ((∃ i, c.validate = .error i) ↔ c.Corrected)) := by
  constructor
  · intro c hvalid
    exact usedInFull_of_issue?_eq_none (validate_eq_ok_iff.mp hvalid).2
  · intro c hbase hserver
    have hissue : (∃ i, c.validate = .error i) ↔ c.issue? ≠ none := by
      simp only [validate_eq_error_iff, ← Option.isSome_iff_exists, Option.isSome_iff_ne_none]
    rw [hissue, ne_eq, issue?_eq_none_iff_not_corrected hbase hserver, not_not]

/-- Regions in letters of either case, one of them twice, and a single poll. -/
def mixedCaseConfig : Config where
  defaultRegion := "be"
  allowedRegions := ["nl", "Be", "NL"]
  sessionPollMax := 1

/-- The same without any poll. -/
def polllessConfig : Config :=
  { mixedCaseConfig with sessionPollMax := 0 }

/-- The one configuration is used in full, and the other one would be corrected. -/
theorem checked_used_in_full_mixed_case :
    mixedCaseConfig.validate = .ok mixedCaseConfig ∧
    (NumberValidator.ofConfig mixedCaseConfig).allowed =
      [⟨"NL", "31"⟩, ⟨"BE", "32"⟩, ⟨"NL", "31"⟩] ∧
    mixedCaseConfig.UsedInFull ∧
    Text.isBlankText polllessConfig.apiBase = false ∧
    Text.isBlankText polllessConfig.issuanceServer = false ∧
    polllessConfig.validate = .error .noPolls ∧ polllessConfig.Corrected := by
  have hvalid : mixedCaseConfig.validate = .ok mixedCaseConfig :=
    validate_eq_ok_iff.mpr ⟨rfl, by decide⟩
  have hbase : Text.isBlankText polllessConfig.apiBase = false := by decide
  have hserver : Text.isBlankText polllessConfig.issuanceServer = false := by decide
  have hnoPolls : polllessConfig.validate = .error .noPolls :=
    validate_eq_error_iff.mpr (by decide)
  refine ⟨hvalid, by decide, checked_used_in_full.1 _ hvalid, hbase, hserver, hnoPolls, ?_⟩
  exact (checked_used_in_full.2 _ hbase hserver).mp ⟨_, hnoPolls⟩

end PhoneVerification.Config
