import PhoneVerification.Proofs.Config.Fields
import PhoneVerification.Proofs.Json.Spelling

/-!
# Written configurations

A configuration is read back from its JSON text, compact or with one field a line, with all its
fields as they were.
-/

namespace PhoneVerification

open Json (Spaces WellFormed)

namespace Wire

/-- A value that is read back from its written form is read back from its text. -/
theorem decode?_encode {α : Type} [ToWire α] [OfWire α] {a : α}
    (hform : WellFormed (ToWire.toJson a)) (hread : OfWire.ofJson? (ToWire.toJson a) = some a) :
    decode? (encode a) = some a := by
  rw [decode?, encode, Json.parse?_compact hform, Option.bind_some, hread]

end Wire

namespace Config

theorem wellFormed_toJson (c : Config) : WellFormed (ToWire.toJson c) := by
  have hregions : WellFormed (.array (c.allowedRegions.map .text)) := by
    apply WellFormed.array
    intro v hv
    obtain ⟨name, -, rfl⟩ := List.mem_map.mp hv
    exact .string (some name)
  apply Json.wellFormed_record
  simp only [List.forall_mem_cons]
  exact ⟨.string _, .string _, .string _, .string _, .string _, .string _, .string _, hregions,
    .bool _, .bool _, .bool _, Json.wellFormed_ofNat _, Json.wellFormed_ofNat _, List.forall_mem_nil _⟩

/-- A configuration is read back from its compact text. -/
theorem decode?_encode (c : Config) : Wire.decode? (Wire.encode c) = some c :=
  Wire.decode?_encode c.wellFormed_toJson c.ofJson?_toJson

/-- A configuration is read back from its pretty text, also with spaces after it. -/
theorem decode?_prettyText (c : Config) {after : List Char} (hafter : Spaces after) :
    Wire.decode? (c.prettyText ++ String.ofList after) = some c := by
  rw [Wire.decode?, prettyText, Json.parse?_pretty c.wellFormed_toJson hafter, Option.bind_some,
    ofJson?_toJson]

end Config

end PhoneVerification
