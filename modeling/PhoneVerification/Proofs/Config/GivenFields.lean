import PhoneVerification.Proofs.Config.Checked
import PhoneVerification.Proofs.Config.Fields
import PhoneVerification.Proofs.Json.Spelling

/-!
# Configurations with some fields given

A text need not give all fields of a configuration. It may give some of them in any order, among members
that are no fields of a configuration and can hold anything (`Gives`). Such a text is read as the
configuration that has the given fields, and the standard values of all others (`only`), and is refused
if that configuration does not pass the check.
-/

namespace PhoneVerification.Config

/-- The configuration with the values of `c` for the fields `fs`, and the standard values of all
others. -/
def only (c : Config) (fs : List Field) : Config :=
  let standard : Config := {}
  { apiBase := if .apiBase ∈ fs then c.apiBase else standard.apiBase
    sendEndpoint := if .sendEndpoint ∈ fs then c.sendEndpoint else standard.sendEndpoint
    verifyEndpoint := if .verifyEndpoint ∈ fs then c.verifyEndpoint else standard.verifyEndpoint
    issuanceServer := if .issuanceServer ∈ fs then c.issuanceServer else standard.issuanceServer
    locale := if .locale ∈ fs then c.locale else standard.locale
    phoneUtilsPath := if .phoneUtilsPath ∈ fs then c.phoneUtilsPath else standard.phoneUtilsPath
    defaultRegion := if .defaultRegion ∈ fs then c.defaultRegion else standard.defaultRegion
    allowedRegions := if .allowedRegions ∈ fs then c.allowedRegions else standard.allowedRegions
    confirmStep := if .confirmStep ∈ fs then c.confirmStep else standard.confirmStep
    announceSent := if .announceSent ∈ fs then c.announceSent else standard.announceSent
    historyAvailable :=
      if .historyAvailable ∈ fs then c.historyAvailable else standard.historyAvailable
    sessionPollIntervalMs :=
      if .sessionPollIntervalMs ∈ fs then c.sessionPollIntervalMs
      else standard.sessionPollIntervalMs
    sessionPollMax := if .sessionPollMax ∈ fs then c.sessionPollMax else standard.sessionPollMax }

/-- The members of an object that gives the fields `fs` of `c` in this order, among members that are no
fields. -/
inductive Gives (c : Config) : List Field → List (Option String × Json) → Prop
  | nil : Gives c [] []
  | field (f : Field) {fs : List Field} {ms : List (Option String × Json)} (h : Gives c fs ms) :
      Gives c (f :: fs) ((some (Named.name f), f.form c) :: ms)
  | other {key : String} (hkey : ∀ f : Field, Named.name f ≠ key) (v : Json) {fs : List Field}
      {ms : List (Option String × Json)} (h : Gives c fs ms) : Gives c fs ((some key, v) :: ms)

variable {c : Config} {f : Field} {fs : List Field} {ms : List (Option String × Json)}
  {given : Option Json}

theorem takes_only_of_mem (h : f ∈ fs) : (c.only fs).Takes given f ↔ c.Takes given f := by
  cases f <;> simp only [Takes, only, h, if_true]

theorem takes_only_of_not_mem (h : f ∉ fs) :
    (c.only fs).Takes given f ↔ ({} : Config).Takes given f := by
  cases f <;> simp only [Takes, only, h, if_false]

/-- Every field can be taken from what is given for it. -/
theorem takes_only (c : Config) (fs : List Field) (f : Field) :
    (c.only fs).Takes (if f ∈ fs then some (f.form c) else none) f := by
  by_cases h : f ∈ fs
  · rw [if_pos h, takes_only_of_mem h]
    exact takes_form c f
  · rw [if_neg h, takes_only_of_not_mem h]
    exact takes_none f

namespace Gives

theorem isSome_key (h : Gives c fs ms) : ∀ m ∈ ms, m.1.isSome = true := by
  induction h with
  | nil => exact List.forall_mem_nil _
  | field f _ ih => exact List.forall_mem_cons.mpr ⟨rfl, ih⟩
  | other hkey v _ ih => exact List.forall_mem_cons.mpr ⟨rfl, ih⟩

/-- Only what is given for a field has its name. -/
theorem filter_eq (h : Gives c fs ms) (hfs : fs.Nodup) (f : Field) :
    ms.filter (fun m => m.1 == some (Named.name f)) =
      if f ∈ fs then [(some (Named.name f), f.form c)] else [] := by
  induction h with
  | nil => rfl
  | @field g fs ms h ih =>
      obtain ⟨hnew, hfs⟩ := List.nodup_cons.mp hfs
      by_cases hg : g = f
      · subst hg
        rw [List.filter_cons_of_pos (by simp), ih hfs, if_neg hnew, if_pos List.mem_cons_self]
      · have hname : Named.name g ≠ Named.name f := fun hname => hg (Named.name_injective hname)
        rw [List.filter_cons_of_neg (by simp [hname]), ih hfs]
        simp only [List.mem_cons, Ne.symm hg, false_or]
  | other hkey v h ih =>
      rw [List.filter_cons_of_neg (by simp [Ne.symm (hkey f)]), ih hfs]

theorem field?_eq (h : Gives c fs ms) (hfs : fs.Nodup) (f : Field) :
    Json.field? ms (Named.name f) = some (if f ∈ fs then some (f.form c) else none) := by
  rw [Json.field?, h.filter_eq hfs]
  by_cases hf : f ∈ fs
  · rw [if_pos hf, if_pos hf]
  · rw [if_neg hf, if_neg hf]

/-- In whatever order fields are given, and whatever else stands among them, they are read, and all
others have their standard values. -/
theorem ofJson?_eq (h : Gives c fs ms) (hfs : fs.Nodup) :
    OfWire.ofJson? (Json.object ms) = some (c.only fs) := by
  apply ofJson?_eq_some_iff.mpr
  refine ⟨fun f => if f ∈ fs then some (f.form c) else none, ?_, takes_only c fs⟩
  have hkeys : ms.all (fun m => m.1.isSome) = true := List.all_eq_true.mpr h.isSome_key
  have hfields : fieldNames.mapM (Json.field? ms) =
      some ((Named.all : List Field).map fun f => if f ∈ fs then some (f.form c) else none) := by
    rw [← Field.map_name_all, List.mapM_map]
    apply mapM_eq_some_map
    intro f _
    exact h.field?_eq hfs f
  rw [Json.asRecord?, if_pos hkeys, hfields]

end Gives

/-- A text that gives some fields of a configuration, in any order and among anything else, is read as
the configuration with these fields and the standard values of all others. It is accepted exactly if
that configuration passes the check, and is refused as an invalid configuration otherwise. -/
theorem reads_given_fields {c : Config} {fs : List Field} {ms : List (Option String × Json)}
    {text : String} (hfs : fs.Nodup) (hms : Gives c fs ms) (htext : Json.Spelled (.object ms) text) :
    Wire.decode? text = some (c.only fs) ∧
    (ofText text = .ok (c.only fs) ↔ (c.only fs).validate = .ok (c.only fs)) ∧
    ((c.only fs).validate ≠ .ok (c.only fs) →
      ∃ i, ofText text = .error i ∧ (c.only fs).validate = .error i ∧
        i.fault = .invalidConfig i.text) := by
  have hread : Wire.decode? text = some (c.only fs) := by
    rw [Wire.decode?, Json.parse?_of_spelled htext, Option.bind_some, hms.ofJson?_eq hfs]
  have hchecked := ofText_eq_validate hread
  refine ⟨hread, by rw [hchecked], ?_⟩
  intro hinvalid
  cases hvalidate : (c.only fs).validate with
  | ok d =>
      obtain ⟨rfl, -⟩ := validate_eq_ok_iff.mp hvalidate
      exact absurd hvalidate hinvalid
  | error i => exact ⟨i, hchecked.trans hvalidate, rfl, rfl⟩

/-- A configuration that differs from the standard one in its first address, its language and its
polls. -/
def fewPollsConfig : Config where
  apiBase := "a"
  locale := .nl
  sessionPollMax := 7

/-- Two fields among members that are no fields, one of which is given twice. -/
def scatteredMembers : List (Option String × Json) :=
  [(some "x", .array [.null, .object [(none, .number ['1', 'e', '5'])]]),
    (some "session_poll_max", .ofNat 7), (some "x", .string none), (some "api_base", .text "a")]

/-- The members with spaces between them, one name and one value with escapes, and strings that cannot
be read. -/
def scatteredText : String :=
  "\t\x7b\"x\" :[null,\x7b\"\\ud800\":1e5\x7d],\n\"session_poll_max\":7,\"\\u0078\":\"\\ud800\"" ++
    ",\"api_base\": \"\\u0061\"\x7d"

theorem gives_scatteredMembers :
    Gives fewPollsConfig [.sessionPollMax, .apiBase] scatteredMembers := by
  have hkey : ∀ f : Field, Named.name f ≠ "x" := by
    intro f
    cases f <;> decide
  exact .other hkey _ (.field .sessionPollMax (.other hkey _ (.field .apiBase .nil)))

theorem spelled_scatteredText : Json.Spelled (.object scatteredMembers) scatteredText := by
  have hspace : Json.Spaces [' '] := Json.spaces_space
  have hline : Json.Spaces ['\n'] := by simp [Json.Spaces, Json.isSpace]
  have htab : Json.Spaces ['\t'] := by simp [Json.Spaces, Json.isSpace]
  have hnumber : Json.NumberLiteral [] ['1'] [] ['e', '5'] := {
    sign := .inl rfl
    whole := .inr ⟨⟨by decide, List.all_eq_true.mp (by decide)⟩, by decide⟩
    fraction := .inl rfl
    exponent := .inr ⟨'e', [], ['5'], .inl rfl, .inl rfl,
      ⟨by decide, List.all_eq_true.mp (by decide)⟩, rfl⟩ }
  have hstray : Json.WellFormed (.array [.null, .object [(none, .number ['1', 'e', '5'])]]) := by
    apply Json.WellFormed.array
    simp only [List.forall_mem_cons]
    refine ⟨.null, .object ?_, List.forall_mem_nil _⟩
    simp only [List.forall_mem_cons]
    exact ⟨.number hnumber, List.forall_mem_nil _⟩
  have hname : Json.StringLiteral (some "x") ['"', '\\', 'u', '0', '0', '7', '8', '"'] :=
    ⟨[.unit 0x78], _, .unit (by decide) .nil, by decide, rfl⟩
  have hvalue : Json.StringLiteral (some "a") ['"', '\\', 'u', '0', '0', '6', '1', '"'] :=
    ⟨[.unit 0x61], _, .unit (by decide) .nil, by decide, rfl⟩
  have hlast := Json.Spells.lastMember Json.spaces_nil (Json.stringLiteral_quote (some "api_base"))
    Json.spaces_nil hspace (.string hvalue) Json.spaces_nil
  have hthird := Json.Spells.member Json.spaces_nil hname Json.spaces_nil Json.spaces_nil
    (.string (Json.stringLiteral_quote none)) Json.spaces_nil hlast
  have hsecond := Json.Spells.member hline (Json.stringLiteral_quote (some "session_poll_max"))
    Json.spaces_nil Json.spaces_nil (Json.spells_compactChars (Json.wellFormed_ofNat 7))
    Json.spaces_nil hthird
  have hall := Json.Spells.member Json.spaces_nil (Json.stringLiteral_quote (some "x")) hspace
    Json.spaces_nil (Json.spells_compactChars hstray) Json.spaces_nil hsecond
  exact ⟨['\t'], _, [], htab, .object hall, Json.spaces_nil, by decide⟩

/-- The scattered fields are read, and a number of polls that is not allowed is refused. -/
theorem reads_given_fields_scattered :
    (Gives fewPollsConfig [.sessionPollMax, .apiBase] scatteredMembers ∧
      Json.Spelled (.object scatteredMembers) scatteredText ∧
      ofText scatteredText = .ok { apiBase := "a", sessionPollMax := 7 }) ∧
    (Gives polllessConfig [.sessionPollMax] [(some "session_poll_max", .ofNat 0)] ∧
      ∃ i, ofText "\x7b\"session_poll_max\":0\x7d" = .error i ∧
        i.fault = .invalidConfig "session_poll_max must be at least 1") := by
  constructor
  · have hnodup : [Field.sessionPollMax, Field.apiBase].Nodup := by decide
    obtain ⟨-, haccepted, -⟩ :=
      reads_given_fields hnodup gives_scatteredMembers spelled_scatteredText
    have hvalid : (fewPollsConfig.only [.sessionPollMax, .apiBase]).validate =
        .ok (fewPollsConfig.only [.sessionPollMax, .apiBase]) :=
      validate_eq_ok_iff.mpr ⟨rfl, by decide⟩
    exact ⟨gives_scatteredMembers, spelled_scatteredText, haccepted.mpr hvalid⟩
  · have hgives : Gives polllessConfig [.sessionPollMax] [(some "session_poll_max", .ofNat 0)] :=
      .field .sessionPollMax .nil
    have hwellFormed : Json.WellFormed (.record [("session_poll_max", .ofNat 0)]) :=
      Json.wellFormed_record (List.forall_mem_singleton.mpr (Json.wellFormed_ofNat 0))
    have hspelled : Json.Spelled (.object [(some "session_poll_max", .ofNat 0)])
        "\x7b\"session_poll_max\":0\x7d" :=
      ⟨[], _, [], Json.spaces_nil, Json.spells_compactChars hwellFormed, Json.spaces_nil, by decide⟩
    have hissue : (polllessConfig.only [.sessionPollMax]).validate = .error .noPolls :=
      validate_eq_error_iff.mpr (by decide)
    have hinvalid : (polllessConfig.only [.sessionPollMax]).validate ≠
        .ok (polllessConfig.only [.sessionPollMax]) := by
      rw [hissue]
      intro hok
      cases hok
    obtain ⟨-, -, hrefused⟩ := reads_given_fields (by decide) hgives hspelled
    obtain ⟨i, hrefused, hvalidate, hfault⟩ := hrefused hinvalid
    obtain rfl := Except.error.inj (hissue.symm.trans hvalidate)
    exact ⟨hgives, _, hrefused, hfault⟩

end PhoneVerification.Config
