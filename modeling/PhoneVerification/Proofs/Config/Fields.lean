import PhoneVerification.Wire
import PhoneVerification.Proofs.Json.Shape

/-!
# The fields of a configuration

What a configuration is read from says for each field what is given for it, if anything. A field that is
given has the value that is read of it, and any other field has its standard value (`Takes`); nothing
else decides which configuration is read (`ofJson?_eq_some_iff`).
-/

namespace PhoneVerification.Config

/-- The fields of a configuration. -/
inductive Field
  | apiBase
  | sendEndpoint
  | verifyEndpoint
  | issuanceServer
  | locale
  | phoneUtilsPath
  | defaultRegion
  | allowedRegions
  | confirmStep
  | announceSent
  | historyAvailable
  | sessionPollIntervalMs
  | sessionPollMax
  deriving DecidableEq, Repr

namespace Field

instance : Named Field where
  all := [apiBase, sendEndpoint, verifyEndpoint, issuanceServer, locale, phoneUtilsPath,
    defaultRegion, allowedRegions, confirmStep, announceSent, historyAvailable,
    sessionPollIntervalMs, sessionPollMax]
  name
    | apiBase => "api_base"
    | sendEndpoint => "send_endpoint"
    | verifyEndpoint => "verify_endpoint"
    | issuanceServer => "issuance_server"
    | locale => "locale"
    | phoneUtilsPath => "phone_utils_path"
    | defaultRegion => "default_region"
    | allowedRegions => "allowed_regions"
    | confirmStep => "confirm_step"
    | announceSent => "announce_sent"
    | historyAvailable => "history_available"
    | sessionPollIntervalMs => "session_poll_interval_ms"
    | sessionPollMax => "session_poll_max"
  mem_all := by intro f; cases f <;> decide
  find_name := by intro f; cases f <;> rfl

theorem map_name_all : (Named.all : List Field).map Named.name = fieldNames := by
  rfl

/-- How the value of a field is written. -/
def form (c : Config) : Field → Json
  | apiBase => .text c.apiBase
  | sendEndpoint => .text c.sendEndpoint
  | verifyEndpoint => .text c.verifyEndpoint
  | issuanceServer => .text c.issuanceServer
  | locale => ToWire.toJson c.locale
  | phoneUtilsPath => .text c.phoneUtilsPath
  | defaultRegion => .text c.defaultRegion
  | allowedRegions => .array (c.allowedRegions.map .text)
  | confirmStep => .bool c.confirmStep
  | announceSent => .bool c.announceSent
  | historyAvailable => .bool c.historyAvailable
  | sessionPollIntervalMs => .ofNat c.sessionPollIntervalMs.toNat
  | sessionPollMax => .ofNat c.sessionPollMax.toNat

theorem toJson_eq (c : Config) :
    ToWire.toJson c = .record ((Named.all : List Field).map fun f => (Named.name f, f.form c)) := by
  rfl

end Field

/-- A field has the value that is read of what is given for it, or its standard value if nothing is
given. -/
def Takes (c : Config) (given : Option Json) : Field → Prop
  | .apiBase => Json.withDefault ({} : Config).apiBase Json.asText? given = some c.apiBase
  | .sendEndpoint =>
    Json.withDefault ({} : Config).sendEndpoint Json.asText? given = some c.sendEndpoint
  | .verifyEndpoint =>
    Json.withDefault ({} : Config).verifyEndpoint Json.asText? given = some c.verifyEndpoint
  | .issuanceServer =>
    Json.withDefault ({} : Config).issuanceServer Json.asText? given = some c.issuanceServer
  | .locale => Json.withDefault ({} : Config).locale Json.asNamed? given = some c.locale
  | .phoneUtilsPath =>
    Json.withDefault ({} : Config).phoneUtilsPath Json.asText? given = some c.phoneUtilsPath
  | .defaultRegion =>
    Json.withDefault ({} : Config).defaultRegion Json.asText? given = some c.defaultRegion
  | .allowedRegions =>
    Json.withDefault ({} : Config).allowedRegions (Json.asList? Json.asText?) given =
      some c.allowedRegions
  | .confirmStep =>
    Json.withDefault ({} : Config).confirmStep Json.asBool? given = some c.confirmStep
  | .announceSent =>
    Json.withDefault ({} : Config).announceSent Json.asBool? given = some c.announceSent
  | .historyAvailable =>
    Json.withDefault ({} : Config).historyAvailable Json.asBool? given = some c.historyAvailable
  | .sessionPollIntervalMs =>
    Json.withDefault ({} : Config).sessionPollIntervalMs.toNat (Json.asNat? UInt64.size) given =
      some c.sessionPollIntervalMs.toNat
  | .sessionPollMax =>
    Json.withDefault ({} : Config).sessionPollMax.toNat (Json.asNat? UInt32.size) given =
      some c.sessionPollMax.toNat

/-- A number that is given is below its limit if the standard one is. -/
theorem lt_of_withDefault_asNat? {limit standard n : Nat} {given : Option Json}
    (hstandard : standard < limit)
    (h : Json.withDefault standard (Json.asNat? limit) given = some n) : n < limit := by
  cases given with
  | none =>
      obtain rfl := Option.some.inj h
      exact hstandard
  | some v =>
      rw [Json.withDefault] at h
      unfold Json.asNat? at h
      split at h
      next literal =>
        obtain ⟨m, -, hm⟩ := Option.bind_eq_some_iff.mp h
        split at hm
        next hlt =>
          obtain rfl := Option.some.inj hm
          exact hlt
        next => cases hm
      next => cases h

/-- A configuration is read exactly if the fields are found and each can be taken from what is given
for it. -/
theorem ofJson?_eq_some_iff {v : Json} {c : Config} :
    OfWire.ofJson? v = some c ↔ ∃ given : Field → Option Json,
      v.asRecord? fieldNames false = some ((Named.all : List Field).map given) ∧
        ∀ f, c.Takes (given f) f := by
  constructor
  · intro h
    simp only [OfWire.ofJson?] at h
    split at h
    next apiBase sendEndpoint verifyEndpoint issuanceServer locale phoneUtilsPath defaultRegion
        allowedRegions confirmStep announceSent historyAvailable interval polls hfields =>
      obtain ⟨_, hapiBase, h⟩ := Option.bind_eq_some_iff.mp h
      obtain ⟨_, hsendEndpoint, h⟩ := Option.bind_eq_some_iff.mp h
      obtain ⟨_, hverifyEndpoint, h⟩ := Option.bind_eq_some_iff.mp h
      obtain ⟨_, hissuanceServer, h⟩ := Option.bind_eq_some_iff.mp h
      obtain ⟨_, hlocale, h⟩ := Option.bind_eq_some_iff.mp h
      obtain ⟨_, hphoneUtilsPath, h⟩ := Option.bind_eq_some_iff.mp h
      obtain ⟨_, hdefaultRegion, h⟩ := Option.bind_eq_some_iff.mp h
      obtain ⟨_, hallowedRegions, h⟩ := Option.bind_eq_some_iff.mp h
      obtain ⟨_, hconfirmStep, h⟩ := Option.bind_eq_some_iff.mp h
      obtain ⟨_, hannounceSent, h⟩ := Option.bind_eq_some_iff.mp h
      obtain ⟨_, hhistoryAvailable, h⟩ := Option.bind_eq_some_iff.mp h
      obtain ⟨_, hinterval, h⟩ := Option.bind_eq_some_iff.mp h
      obtain ⟨_, hpolls, h⟩ := Option.bind_eq_some_iff.mp h
      obtain rfl := Option.some.inj h
      have hintervalLt := lt_of_withDefault_asNat? (by decide) hinterval
      have hpollsLt := lt_of_withDefault_asNat? (by decide) hpolls
      refine ⟨Field.rec (motive := fun _ => Option Json) apiBase sendEndpoint verifyEndpoint
        issuanceServer locale phoneUtilsPath defaultRegion allowedRegions confirmStep announceSent
        historyAvailable interval polls, hfields, ?_⟩
      intro f
      cases f
      case sessionPollIntervalMs => rwa [Takes, UInt64.toNat_ofNat_of_lt' hintervalLt]
      case sessionPollMax => rwa [Takes, UInt32.toNat_ofNat_of_lt' hpollsLt]
      all_goals assumption
    next => cases h
  · rintro ⟨given, hfields, htakes⟩
    have hfound : v.asRecord? fieldNames false = some [given .apiBase, given .sendEndpoint,
        given .verifyEndpoint, given .issuanceServer, given .locale, given .phoneUtilsPath,
        given .defaultRegion, given .allowedRegions, given .confirmStep, given .announceSent,
        given .historyAvailable, given .sessionPollIntervalMs, given .sessionPollMax] := hfields
    simp only [OfWire.ofJson?, hfound]
    refine Option.bind_eq_some_iff.mpr ⟨_, htakes .apiBase, ?_⟩
    refine Option.bind_eq_some_iff.mpr ⟨_, htakes .sendEndpoint, ?_⟩
    refine Option.bind_eq_some_iff.mpr ⟨_, htakes .verifyEndpoint, ?_⟩
    refine Option.bind_eq_some_iff.mpr ⟨_, htakes .issuanceServer, ?_⟩
    refine Option.bind_eq_some_iff.mpr ⟨_, htakes .locale, ?_⟩
    refine Option.bind_eq_some_iff.mpr ⟨_, htakes .phoneUtilsPath, ?_⟩
    refine Option.bind_eq_some_iff.mpr ⟨_, htakes .defaultRegion, ?_⟩
    refine Option.bind_eq_some_iff.mpr ⟨_, htakes .allowedRegions, ?_⟩
    refine Option.bind_eq_some_iff.mpr ⟨_, htakes .confirmStep, ?_⟩
    refine Option.bind_eq_some_iff.mpr ⟨_, htakes .announceSent, ?_⟩
    refine Option.bind_eq_some_iff.mpr ⟨_, htakes .historyAvailable, ?_⟩
    refine Option.bind_eq_some_iff.mpr ⟨_, htakes .sessionPollIntervalMs, ?_⟩
    refine Option.bind_eq_some_iff.mpr ⟨_, htakes .sessionPollMax, ?_⟩
    rw [UInt64.ofNat_toNat, UInt32.ofNat_toNat]

/-! ## Written fields -/

variable {c : Config} {f : Field}

/-- What is written for a field is read as its value. -/
theorem takes_form (c : Config) (f : Field) : c.Takes (some (f.form c)) f := by
  cases f with
  | locale => exact Json.asNamed?_text c.locale
  | allowedRegions => exact Json.asList?_array Json.asText?_text c.allowedRegions
  | sessionPollIntervalMs => exact Json.asNat?_ofNat c.sessionPollIntervalMs.toNat_lt_size
  | sessionPollMax => exact Json.asNat?_ofNat c.sessionPollMax.toNat_lt_size
  | _ => rfl

/-- Where nothing is given, the standard configuration is read. -/
theorem takes_none (f : Field) : ({} : Config).Takes none f := by
  cases f <;> rfl

/-- What is given for a field settles its value. -/
theorem Takes.form_eq {given : Option Json} {d : Config} (hc : c.Takes given f)
    (hd : d.Takes given f) : f.form c = f.form d := by
  cases f <;> simp only [Takes] at hc hd <;>
    simp only [Field.form, Option.some.inj (hc.symm.trans hd)]

theorem ofJson?_toJson (c : Config) : OfWire.ofJson? (ToWire.toJson c) = some c := by
  have hnodup : fieldNames.Nodup := by decide
  apply ofJson?_eq_some_iff.mpr
  refine ⟨fun f => some (f.form c), ?_, takes_form c⟩
  rw [Field.toJson_eq, Json.asRecord?_of_keys false _ hnodup, List.map_map]
  · rfl
  · rw [List.map_map]
    rfl

/-- A configuration is told by the values of its fields. -/
theorem eq_of_form_eq {d : Config} (h : ∀ f : Field, f.form c = f.form d) : c = d := by
  have hwritten : ToWire.toJson c = ToWire.toJson d := by
    rw [Field.toJson_eq, Field.toJson_eq]
    simp only [h]
  have hread := ofJson?_toJson c
  rw [hwritten, ofJson?_toJson] at hread
  exact (Option.some.inj hread).symm

end PhoneVerification.Config
