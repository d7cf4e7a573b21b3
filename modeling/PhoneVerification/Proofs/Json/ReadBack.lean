import PhoneVerification.Flow.Step
import PhoneVerification.Proofs.Config.Written

/-!
# Values that are read back

A lawful form is well formed and is read as the value that was written (`LawfulWire`). Then both
texts of a value, compact and with one field a line, are read as that value, and no two values
have one text (`Wire.faithful`). Names, records of texts and numbers, and the actions of the back
control have lawful forms, so that `Wire.values_read_back` holds of each of them.
-/

namespace PhoneVerification

open Json (WellFormed)

/-- The form in which a value is written can be spelled, and it is read as the value written. -/
class LawfulWire (α : Type) [ToWire α] [OfWire α] : Prop where
  wellFormed (a : α) : WellFormed (ToWire.toJson a)
  ofJson?_toJson (a : α) : OfWire.ofJson? (ToWire.toJson a) = some a

namespace Wire

/-- The text of a value with one field a line. -/
def encodePretty {α : Type} [ToWire α] (a : α) : String :=
  (ToWire.toJson a).pretty

/-- Every value is read back from both its texts, and neither is the text of another value. -/
structure Faithful (α : Type) [ToWire α] [OfWire α] : Prop where
  decode?_encode : ∀ a : α, decode? (encode a) = some a
  decode?_encodePretty : ∀ a : α, decode? (encodePretty a) = some a
  encode_injective : Function.Injective (encode : α → String)
  encodePretty_injective : Function.Injective (encodePretty : α → String)

variable {α : Type} [OfWire α]

/-- What is read back as it was is not written as anything else is. -/
theorem injective_of_decode? {write : α → String} (h : ∀ a, decode? (write a) = some a) :
    Function.Injective write := by
  intro a b hab
  have hread := congrArg (decode? : String → Option α) hab
  rw [h a, h b] at hread
  exact Option.some.inj hread

/-- Lawful forms give faithful texts. -/
theorem faithful [ToWire α] [LawfulWire α] : Faithful α := by
  have hcompact : ∀ a : α, decode? (encode a) = some a := fun a =>
    Wire.decode?_encode (LawfulWire.wellFormed a) (LawfulWire.ofJson?_toJson a)
  have hpretty : ∀ a : α, decode? (encodePretty a) = some a := by
    intro a
    have hparse := Json.parse?_pretty (LawfulWire.wellFormed a) Json.spaces_nil
    rw [String.ofList_nil, String.append_empty] at hparse
    rw [decode?, encodePretty, hparse, Option.bind_some, LawfulWire.ofJson?_toJson]
  exact {
    decode?_encode := hcompact
    decode?_encodePretty := hpretty
    encode_injective := injective_of_decode? hcompact
    encodePretty_injective := injective_of_decode? hpretty }

end Wire

/-! ## Names and optional texts -/

instance {α : Type} [Named α] : LawfulWire α where
  wellFormed a := .string (some (Named.name a))
  ofJson?_toJson := Json.asNamed?_text

namespace Json

theorem wellFormed_optionalText (o : Option String) : WellFormed (optionalText o) := by
  cases o with
  | none => exact .null
  | some s => exact .string (some s)

theorem asOptionalText?_optionalText (o : Option String) :
    asOptionalText? (optionalText o) = some o := by
  cases o with
  | none => rfl
  | some s => rfl

end Json

/-! ## Records -/

instance : LawfulWire RetryWindow where
  wellFormed w := by
    apply Json.wellFormed_record
    simp only [List.forall_mem_cons]
    exact ⟨Json.wellFormed_ofNat _, List.forall_mem_nil _⟩
  ofJson?_toJson w := by
    have hfields : (ToWire.toJson w).asRecord? ["seconds"] true =
        some [some (.ofNat w.seconds.toNat)] :=
      Json.asRecord?_of_keys true rfl (by decide)
    have hseconds := Json.asNat?_ofNat w.seconds.toNat_lt_size
    simp only [OfWire.ofJson?, hfields, Json.required, Option.bind_eq_bind, Option.bind_some,
      hseconds, UInt64.ofNat_toNat]

instance : LawfulWire PhoneNumber where
  wellFormed p := by
    apply Json.wellFormed_record
    simp only [List.forall_mem_cons]
    exact ⟨.string _, Json.wellFormed_optionalText _, List.forall_mem_nil _⟩
  ofJson?_toJson p := by
    have hfields : (ToWire.toJson p).asRecord? ["e164", "region"] true =
        some [some (.text p.e164), some (.optionalText p.region)] :=
      Json.asRecord?_of_keys true rfl (by decide)
    simp only [OfWire.ofJson?, hfields, Json.required, Json.withDefault, Option.bind_eq_bind,
      Option.bind_some, Json.asText?_text, Json.asOptionalText?_optionalText]

instance : LawfulWire SmsDispatch where
  wellFormed d := by
    apply Json.wellFormed_record
    simp only [List.forall_mem_cons]
    exact ⟨Json.wellFormed_optionalText _, List.forall_mem_nil _⟩
  ofJson?_toJson d := by
    have hfields : (ToWire.toJson d).asRecord? ["sender"] true =
        some [some (.optionalText d.sender)] :=
      Json.asRecord?_of_keys true rfl (by decide)
    simp only [OfWire.ofJson?, hfields, Json.withDefault, Option.bind_eq_bind, Option.bind_some,
      Json.asOptionalText?_optionalText]

instance : LawfulWire StatusMessage where
  wellFormed m := by
    apply Json.wellFormed_record
    simp only [List.forall_mem_cons]
    exact ⟨LawfulWire.wellFormed m.severity, .string _, List.forall_mem_nil _⟩
  ofJson?_toJson m := by
    have hfields : (ToWire.toJson m).asRecord? ["severity", "body"] true =
        some [some (ToWire.toJson m.severity), some (.text m.body)] :=
      Json.asRecord?_of_keys true rfl (by decide)
    have hseverity : Json.asNamed? (ToWire.toJson m.severity) = some m.severity :=
      Json.asNamed?_text _
    simp only [OfWire.ofJson?, hfields, Json.required, Option.bind_eq_bind, Option.bind_some,
      hseverity, Json.asText?_text]

instance : LawfulWire SessionPointer where
  wellFormed p := by
    apply Json.wellFormed_record
    simp only [List.forall_mem_cons]
    exact ⟨.string _, .string _, List.forall_mem_nil _⟩
  ofJson?_toJson p := by
    have hfields : (ToWire.toJson p).asRecord? ["u", "irmaqr"] true =
        some [some (.text p.url), some (.text p.kind)] :=
      Json.asRecord?_of_keys true rfl (by decide)
    simp only [OfWire.ofJson?, hfields, Json.required, Option.bind_eq_bind, Option.bind_some,
      Json.asText?_text]

/-! ## Actions of the back control -/

namespace BackAction

variable {kind : Kind} {members : List (String × Json)} {step : Option Json} {action : BackAction}

/-- An action is read from its kind and from what stands after the kind, if that is a step. -/
theorem ofJson?_record
    (hfields : (Json.record (("kind", ToWire.toJson kind) :: members)).asRecord? ["kind", "step"]
      true = some [some (ToWire.toJson kind), step])
    (haction : ofKind? kind step = some action) :
    OfWire.ofJson? (Json.record (("kind", ToWire.toJson kind) :: members)) = some action := by
  have hkind : kindOf? (Json.record (("kind", ToWire.toJson kind) :: members))
      (ToWire.toJson kind) = some kind := Json.asNamed?_text kind
  -- The kind is the first name in the object, so the step keeps the form of a name.
  have hfirst : isStepFirst (Json.record (("kind", ToWire.toJson kind) :: members)) = false := by
    rfl
  simp only [OfWire.ofJson?, hfields, Json.required, Option.bind_eq_bind, Option.bind_some, hkind,
    hfirst, Bool.false_eq_true, if_false, haction]

/-- An action without a step is an object with its kind only. -/
theorem wellFormed_kind (kind : Kind) :
    WellFormed (.record [("kind", ToWire.toJson kind)]) := by
  apply Json.wellFormed_record
  simp only [List.forall_mem_cons]
  exact ⟨LawfulWire.wellFormed kind, List.forall_mem_nil _⟩

theorem asRecord?_kind (kind : Kind) :
    (Json.record [("kind", ToWire.toJson kind)]).asRecord? ["kind", "step"] true =
      some [some (ToWire.toJson kind), none] := by
  rfl

instance : LawfulWire BackAction where
  wellFormed action := by
    cases action with
    | navigate step =>
        apply Json.wellFormed_record
        simp only [List.forall_mem_cons]
        exact ⟨LawfulWire.wellFormed _, LawfulWire.wellFormed step, List.forall_mem_nil _⟩
    | history => exact wellFormed_kind .history
    | hidden => exact wellFormed_kind .hidden
  ofJson?_toJson action := by
    cases action with
    | navigate step =>
        have hstep : Json.asNamed? (ToWire.toJson step) = some step := Json.asNamed?_text step
        have hfields : (ToWire.toJson (navigate step)).asRecord? ["kind", "step"] true =
            some [some (ToWire.toJson Kind.navigate), some (ToWire.toJson step)] :=
          Json.asRecord?_of_keys true rfl (by decide)
        apply ofJson?_record hfields
        simp only [ofKind?, Json.required, Option.bind_some, hstep, Option.map_some]
    | history => exact ofJson?_record (asRecord?_kind .history) rfl
    | hidden => exact ofJson?_record (asRecord?_kind .hidden) rfl

end BackAction

namespace Wire

/-- Whatever a value holds, its texts give it back as it was. -/
theorem values_read_back :
    Faithful PhoneNumber ∧ Faithful SmsDispatch ∧ Faithful RetryWindow ∧ Faithful StatusMessage ∧
    Faithful SessionPointer ∧ Faithful BackAction ∧ Faithful Locale ∧ Faithful ErrorCode ∧
    Faithful Step ∧ Faithful Severity ∧ Faithful Attempt :=
  ⟨faithful, faithful, faithful, faithful, faithful, faithful, faithful, faithful, faithful,
    faithful, faithful⟩

/-- Quotes, backslashes and controls come back from their escapes, other characters as they are. -/
example : decode? (encode (⟨"\"\\\n\x01𝄞", none⟩ : PhoneNumber)) =
    some (⟨"\"\\\n\x01𝄞", none⟩ : PhoneNumber) := by
  decide +kernel

end Wire

end PhoneVerification
