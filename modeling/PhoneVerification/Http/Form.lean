import PhoneVerification.Text.Ascii
import PhoneVerification.Url.Percent

/-!
# Forms

The body of a posted form: pairs of a name and a value. No character of a name or a value can be
taken for a mark between them, because every mark is encoded. `encode` writes a body, `decode`
reads it.
-/

namespace PhoneVerification.Http.Form

/-- The type of the body. -/
def contentType : String := "application/x-www-form-urlencoded"

/-- The characters that stand for themselves. -/
def isPlain (c : Char) : Bool :=
  Text.isAsciiLetter c || Text.isAsciiDigit c || c == '*' || c == '-' || c == '.' || c == '_'

/-- A character in the body. -/
def encodeChar (c : Char) : List Char :=
  if isPlain c then [c] else if c == ' ' then ['+'] else Url.Percent.char c

/-- A name or a value in the body. -/
def encodeText (s : String) : List Char :=
  s.toList.flatMap encodeChar

/-- A pair in the body. -/
def encodePair (pair : String × String) : List Char :=
  encodeText pair.1 ++ '=' :: encodeText pair.2

/-- The body with these pairs. -/
def encode (pairs : List (String × String)) : String :=
  String.ofList (['&'].intercalate (pairs.map encodePair))

/-- The text meant by a name or a value in a body. -/
def decodeText (s : List Char) : String :=
  Text.Utf8.decodeLossy (Url.Percent.decode (s.map fun c => if c == '+' then ' ' else c))

/-- The pair meant by a part of a body. -/
def decodePair (s : List Char) : String × String :=
  (decodeText (s.takeWhile (· != '=')), decodeText ((s.dropWhile (· != '=')).drop 1))

/-- The pairs of a body. -/
def decode (body : String) : List (String × String) :=
  ((body.toList.splitOn '&').filter fun s => !s.isEmpty).map decodePair

end PhoneVerification.Http.Form
