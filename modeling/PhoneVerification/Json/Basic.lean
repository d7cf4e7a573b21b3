import PhoneVerification.Text.Digits

/-!
# JSON values

A value as it is written: a number by its characters, and a string by its text, or by `none` if
its bytes are those of no text or one of its escapes denotes no character. Such a string can be
skipped but not read.
-/

namespace PhoneVerification

inductive Json
  | null
  | bool (b : Bool)
  | number (literal : List Char)
  | string (text : Option String)
  | array (items : List Json)
  | object (members : List (Option String × Json))

namespace Json

/-- A string that can be read. -/
def text (s : String) : Json :=
  string (some s)

/-- A whole number. -/
def ofNat (n : Nat) : Json :=
  number (Nat.toDigits 10 n)

/-- A string, or null. -/
def optionalText : Option String → Json
  | none => null
  | some s => text s

/-- An object with the given members. -/
def record (members : List (String × Json)) : Json :=
  object (members.map fun m => (some m.1, m.2))

/-- The characters that JSON allows between its parts. -/
def isSpace (c : Char) : Bool :=
  c == ' ' || c == '\n' || c == '\t' || c == '\r'

end Json

end PhoneVerification
