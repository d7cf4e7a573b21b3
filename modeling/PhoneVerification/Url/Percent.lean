import PhoneVerification.Text.Digits
import PhoneVerification.Text.Utf8

/-!
# Percent encoding

A byte that may not stand for itself is written as `%` and two digits. Each part of an address
has its own set of such characters.
-/

namespace PhoneVerification.Url.Percent

/-- A byte as `%` and two digits. -/
def byte (b : UInt8) : List Char :=
  '%' :: Text.byteDigits b

/-- The bytes of a character, each as `%` and two digits. -/
def char (c : Char) : List Char :=
  (String.utf8EncodeChar c).flatMap byte

/-- Encodes the characters of a set. -/
def encode (inSet : Char → Bool) (s : List Char) : List Char :=
  s.flatMap fun c => if inSet c then char c else [c]

/-- Controls and everything beyond ASCII. -/
def control (c : Char) : Bool :=
  c.toNat < 0x20 || 0x7F ≤ c.toNat

/-- What is encoded in a fragment. -/
def fragment (c : Char) : Bool :=
  control c || c == ' ' || c == '"' || c == '<' || c == '>' || c == '\x60'

/-- What is encoded in a query. -/
def query (c : Char) : Bool :=
  control c || c == ' ' || c == '"' || c == '#' || c == '<' || c == '>'

/-- What is encoded in the query of a special scheme. -/
def specialQuery (c : Char) : Bool :=
  query c || c == '\''

/-- What is encoded in a path. -/
def path (c : Char) : Bool :=
  fragment c || c == '#' || c == '?' || c == '\x7b' || c == '\x7d'

/-- What is encoded in a user name or password. -/
def userinfo (c : Char) : Bool :=
  path c || c == '/' || c == ':' || c == ';' || c == '=' || c == '@' || c == '[' || c == '\\' ||
    c == ']' || c == '^' || c == '|'

/-- The bytes meant by a text: `%` with two digits is one byte, anything else stands for itself. -/
def decode : List Char → List UInt8
  | [] => []
  | '%' :: a :: b :: rest =>
    match Text.ofDigits? 16 [a, b] with
    | some n => UInt8.ofNat n :: decode rest
    | none => String.utf8EncodeChar '%' ++ decode (a :: b :: rest)
  | c :: rest => String.utf8EncodeChar c ++ decode rest

end PhoneVerification.Url.Percent
