import PhoneVerification.Json.Basic
import PhoneVerification.Named

/-!
# Shapes of JSON values

How a value is taken for a text, a number, a name or a record. A record is an object with named
fields, or an array of its fields in order.
-/

namespace PhoneVerification.Json

/-- A text. -/
def asText? : Json → Option String
  | string s => s
  | _ => none

/-- A text, or null for its absence. -/
def asOptionalText? : Json → Option (Option String)
  | null => some none
  | v => v.asText?.map some

def asBool? : Json → Option Bool
  | bool b => some b
  | _ => none

/-- A whole number below `limit`, written without sign, point or exponent. -/
def asNat? (limit : Nat) : Json → Option Nat
  | number literal => do
    let n ← Text.decimal? literal
    if n < limit then some n else none
  | _ => none

/-- An array of values of one kind. -/
def asList? {α : Type} (item? : Json → Option α) : Json → Option (List α)
  | array items => items.mapM item?
  | _ => none

/-- A name: a text, or an object whose one member has the name as its key and holds nothing. -/
def asName? : Json → Option String
  | string s => s
  | object [(k, null)] => k
  | _ => none

/-- A value of a vocabulary by its name. -/
def asNamed? {α : Type} [Named α] (v : Json) : Option α :=
  v.asName?.bind Named.ofName?

/-- The value of a field among the members of an object: `none` if it is given twice, `some none`
if it is not given. -/
def field? (members : List (Option String × Json)) (name : String) : Option (Option Json) :=
  match members.filter fun m => m.1 == some name with
  | [] => some none
  | [m] => some (some m.2)
  | _ => none

/-- The fields of a record in the order of `names`, each with its value if it has one. In an
object every key has to be readable and unknown ones are skipped; an array may not be longer than
the record, and with `complete` not shorter. -/
def asRecord? (names : List String) (complete : Bool) : Json → Option (List (Option Json))
  | object members =>
    if members.all fun m => m.1.isSome then names.mapM (field? members) else none
  | array items =>
    if items.length ≤ names.length && (!complete || items.length == names.length) then
      some (items.map some ++ List.replicate (names.length - items.length) none)
    else none
  | _ => none

/-- A field that has to be given. -/
def required {α : Type} (read? : Json → Option α) (field : Option Json) : Option α :=
  field.bind read?

/-- A field that stands for `default` if it is not given. -/
def withDefault {α : Type} (default : α) (read? : Json → Option α) : Option Json → Option α
  | none => some default
  | some v => read? v

end PhoneVerification.Json
