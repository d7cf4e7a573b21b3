import PhoneVerification.Config.Basic
import PhoneVerification.Issuance.Session
import PhoneVerification.Json.Reader
import PhoneVerification.Json.Shape
import PhoneVerification.Json.Writer
import PhoneVerification.PhoneNumber.Basic
import PhoneVerification.RetryWindow
import PhoneVerification.Verification.Dispatch
import PhoneVerification.Verification.ErrorCode

/-!
# JSON forms

How the values of this library are written as JSON and read from it. A value of a vocabulary is
its name, and a structure is a record of its fields.
-/

namespace PhoneVerification

/-- A type with a written form. -/
class ToWire (α : Type) where
  toJson : α → Json

/-- A type that can be read from its written form. -/
class OfWire (α : Type) where
  ofJson? : Json → Option α

namespace Wire

/-- The JSON text of a value. -/
def encode {α : Type} [ToWire α] (a : α) : String :=
  (ToWire.toJson a).compact

/-- The value that bytes of JSON hold. -/
def decodeBytes? {α : Type} [OfWire α] (bytes : List UInt8) : Option α :=
  (Json.parseBytes? bytes).bind OfWire.ofJson?

/-- The value that a JSON text holds. -/
def decode? {α : Type} [OfWire α] (s : String) : Option α :=
  (Json.parse? s).bind OfWire.ofJson?

end Wire

instance {α : Type} [Named α] : ToWire α where
  toJson a := .text (Named.name a)

instance {α : Type} [Named α] : OfWire α where
  ofJson? := Json.asNamed?

namespace RetryWindow

instance : ToWire RetryWindow where
  toJson w := .record [("seconds", .ofNat w.seconds.toNat)]

instance : OfWire RetryWindow where
  ofJson? v :=
    match v.asRecord? ["seconds"] true with
    | some [seconds] => do
      let n ← Json.required (Json.asNat? UInt64.size) seconds
      some ⟨UInt64.ofNat n⟩
    | _ => none

end RetryWindow

namespace PhoneNumber

instance : ToWire PhoneNumber where
  toJson p := .record [("e164", .text p.e164), ("region", .optionalText p.region)]

instance : OfWire PhoneNumber where
  ofJson? v :=
    match v.asRecord? ["e164", "region"] true with
    | some [e164, region] => do
      let e164 ← Json.required Json.asText? e164
      let region ← Json.withDefault none Json.asOptionalText? region
      some ⟨e164, region⟩
    | _ => none

end PhoneNumber

namespace SmsDispatch

instance : ToWire SmsDispatch where
  toJson d := .record [("sender", .optionalText d.sender)]

instance : OfWire SmsDispatch where
  ofJson? v :=
    match v.asRecord? ["sender"] true with
    | some [sender] => do
      let sender ← Json.withDefault none Json.asOptionalText? sender
      some ⟨sender⟩
    | _ => none

end SmsDispatch

namespace StatusMessage

instance : ToWire StatusMessage where
  toJson m := .record [("severity", ToWire.toJson m.severity), ("body", .text m.body)]

instance : OfWire StatusMessage where
  ofJson? v :=
    match v.asRecord? ["severity", "body"] true with
    | some [severity, body] => do
      let severity ← Json.required Json.asNamed? severity
      let body ← Json.required Json.asText? body
      some ⟨severity, body⟩
    | _ => none

end StatusMessage

namespace SessionPointer

instance : ToWire SessionPointer where
  toJson p := .record [("u", .text p.url), ("irmaqr", .text p.kind)]

instance : OfWire SessionPointer where
  ofJson? v :=
    match v.asRecord? ["u", "irmaqr"] true with
    | some [url, kind] => do
      let url ← Json.required Json.asText? url
      let kind ← Json.required Json.asText? kind
      some ⟨url, kind⟩
    | _ => none

end SessionPointer

namespace SessionPackage

instance : OfWire SessionPackage where
  ofJson? v :=
    match v.asRecord? ["sessionPtr", "token"] true with
    | some [pointer, token] => do
      let pointer ← Json.required OfWire.ofJson? pointer
      let token ← Json.required Json.asText? token
      some ⟨pointer, token⟩
    | _ => none

end SessionPackage

namespace BackAction

/-- The kinds of back action, by which the form of the step is chosen. -/
inductive Kind
  | navigate
  | history
  | hidden
  deriving DecidableEq

instance : Named Kind where
  all := [.navigate, .history, .hidden]
  name
    | .navigate => "navigate"
    | .history => "history"
    | .hidden => "hidden"
  mem_all := by intro a; cases a <;> decide
  find_name := by intro a; cases a <;> rfl

instance : ToWire BackAction where
  toJson
    | navigate step =>
      .record [("kind", ToWire.toJson Kind.navigate), ("step", ToWire.toJson step)]
    | history => .record [("kind", ToWire.toJson Kind.history)]
    | hidden => .record [("kind", ToWire.toJson Kind.hidden)]

/-- The name of a step that is given before its kind may also be the key of an empty object. -/
def earlyName : Json → Json
  | .object [(k, .object [])] => .object [(k, .null)]
  | v => v

/-- The action of a kind: only navigation has a step, the others at most null in its place. -/
def ofKind? (kind : Kind) (step : Option Json) : Option BackAction :=
  match kind, step with
  | .navigate, step => (Json.required Json.asNamed? step).map navigate
  | .history, none | .history, some .null => some history
  | .hidden, none | .hidden, some .null => some hidden
  | _, _ => none

/-- Whether the step stands before the kind in an object. -/
def isStepFirst : Json → Bool
  | .object members =>
    ((members.filterMap Prod.fst).find? fun k => k == "kind" || k == "step") == some "step"
  | _ => false

/-- The kind as a member of an object has the form of a name, in an array it is a plain text. -/
def kindOf? : Json → Json → Option Kind
  | .array _, kind => kind.asText?.bind Named.ofName?
  | _, kind => kind.asNamed?

instance : OfWire BackAction where
  ofJson? v :=
    match v.asRecord? ["kind", "step"] true with
    | some [kind, step] => do
      let kind ← Json.required (kindOf? v) kind
      ofKind? kind (if isStepFirst v then step.map earlyName else step)
    | _ => none

end BackAction

namespace Config

/-- The names of the fields in the order in which they are written. -/
def fieldNames : List String :=
  ["api_base", "send_endpoint", "verify_endpoint", "issuance_server", "locale",
    "phone_utils_path", "default_region", "allowed_regions", "confirm_step", "announce_sent",
    "history_available", "session_poll_interval_ms", "session_poll_max"]

instance : ToWire Config where
  toJson c := .record [
    ("api_base", .text c.apiBase),
    ("send_endpoint", .text c.sendEndpoint),
    ("verify_endpoint", .text c.verifyEndpoint),
    ("issuance_server", .text c.issuanceServer),
    ("locale", ToWire.toJson c.locale),
    ("phone_utils_path", .text c.phoneUtilsPath),
    ("default_region", .text c.defaultRegion),
    ("allowed_regions", .array (c.allowedRegions.map .text)),
    ("confirm_step", .bool c.confirmStep),
    ("announce_sent", .bool c.announceSent),
    ("history_available", .bool c.historyAvailable),
    ("session_poll_interval_ms", .ofNat c.sessionPollIntervalMs.toNat),
    ("session_poll_max", .ofNat c.sessionPollMax.toNat)]

instance : OfWire Config where
  ofJson? v :=
    match v.asRecord? fieldNames false with
    | some [apiBase, sendEndpoint, verifyEndpoint, issuanceServer, locale, phoneUtilsPath,
        defaultRegion, allowedRegions, confirmStep, announceSent, historyAvailable, interval,
        polls] => do
      let d : Config := {}
      let apiBase ← Json.withDefault d.apiBase Json.asText? apiBase
      let sendEndpoint ← Json.withDefault d.sendEndpoint Json.asText? sendEndpoint
      let verifyEndpoint ← Json.withDefault d.verifyEndpoint Json.asText? verifyEndpoint
      let issuanceServer ← Json.withDefault d.issuanceServer Json.asText? issuanceServer
      let locale ← Json.withDefault d.locale Json.asNamed? locale
      let phoneUtilsPath ← Json.withDefault d.phoneUtilsPath Json.asText? phoneUtilsPath
      let defaultRegion ← Json.withDefault d.defaultRegion Json.asText? defaultRegion
      let allowedRegions ←
        Json.withDefault d.allowedRegions (Json.asList? Json.asText?) allowedRegions
      let confirmStep ← Json.withDefault d.confirmStep Json.asBool? confirmStep
      let announceSent ← Json.withDefault d.announceSent Json.asBool? announceSent
      let historyAvailable ← Json.withDefault d.historyAvailable Json.asBool? historyAvailable
      let interval ←
        Json.withDefault d.sessionPollIntervalMs.toNat (Json.asNat? UInt64.size) interval
      let polls ← Json.withDefault d.sessionPollMax.toNat (Json.asNat? UInt32.size) polls
      some {
        apiBase, sendEndpoint, verifyEndpoint, issuanceServer, locale, phoneUtilsPath,
        defaultRegion, allowedRegions, confirmStep, announceSent, historyAvailable
        sessionPollIntervalMs := UInt64.ofNat interval
        sessionPollMax := UInt32.ofNat polls }
    | _ => none

/-- Reads a configuration from a JSON text and checks it. -/
def ofText (s : String) : Except ConfigIssue Config :=
  match (Wire.decode? s : Option Config) with
  | none => .error .unreadable
  | some c => c.validate

/-- The configuration as a JSON text with one field a line. -/
def prettyText (c : Config) : String :=
  (ToWire.toJson c).pretty

end Config

end PhoneVerification
