import PhoneVerification.Json.Basic
import PhoneVerification.Text.Utf8

/-!
# Reading of JSON

`parseBytes?` reads bytes that hold one JSON value and nothing else, and a text is read by its
bytes (`parse?`). The reader takes each byte as the character of its number: whatever has a meaning
outside strings is ASCII. Strings are read in two steps: `pieces?` finds the end of a string and its
escapes, `octetText?` puts its bytes together, which need not be those of a text.
-/

namespace PhoneVerification.Json.Reader

/-- A part of a string: a character, or the number given by an escape. -/
inductive Piece
  | char (c : Char)
  | unit (n : Nat)
  deriving DecidableEq

/-- The number written by four digits in base sixteen. -/
def unit? (a b c d : Char) : Option Nat :=
  Text.ofDigits? 16 [a, b, c, d]

/-- The character of a short escape. -/
def shortEscape? : Char → Option Char
  | '"' => some '"'
  | '\\' => some '\\'
  | '/' => some '/'
  | 'b' => some '\x08'
  | 'f' => some '\x0c'
  | 'n' => some '\n'
  | 'r' => some '\r'
  | 't' => some '\t'
  | _ => none

/-- Puts a part in front of what was read. -/
def consPiece (p : Piece) (r : List Piece × List Char) : List Piece × List Char :=
  (p :: r.1, r.2)

/-- The parts of a string up to its closing quote, and what follows. Control characters are
refused, as are escapes of an unknown form. -/
def pieces? : List Char → Option (List Piece × List Char)
  | [] => none
  | '"' :: rest => some ([], rest)
  | '\\' :: 'u' :: a :: b :: c :: d :: rest => do
    let n ← unit? a b c d
    (pieces? rest).map (consPiece (.unit n))
  | '\\' :: e :: rest => do
    let c ← shortEscape? e
    (pieces? rest).map (consPiece (.char c))
  | c :: rest =>
    if c.toNat < 0x20 || c == '\\' then none else (pieces? rest).map (consPiece (.char c))

/-- Whether a number is the first half of a character beyond the first plane. -/
def isHighHalf (n : Nat) : Bool := 0xD800 ≤ n && n < 0xDC00

/-- Whether a number is the second half of such a character. -/
def isLowHalf (n : Nat) : Bool := 0xDC00 ≤ n && n < 0xE000

/-- Puts together what the parts stand for: `plain` says it of a character that is written as it is,
`escaped` of one that is given by numbers. Halves that do not stand together denote no character. -/
def assemble {α : Type} (plain escaped : Char → List α) : List Piece → Option (List α)
  | [] => some []
  | .char c :: rest => (assemble plain escaped rest).map (plain c ++ ·)
  | .unit high :: .unit low :: rest =>
    if isHighHalf high then
      if isLowHalf low then
        (assemble plain escaped rest).map
          (escaped (Char.ofNat (0x10000 + 0x400 * (high - 0xD800) + (low - 0xDC00))) ++ ·)
      else none
    else if isLowHalf high then none
    else (assemble plain escaped (.unit low :: rest)).map (escaped (Char.ofNat high) ++ ·)
  | .unit n :: rest =>
    if isHighHalf n || isLowHalf n then none
    else (assemble plain escaped rest).map (escaped (Char.ofNat n) ++ ·)

/-- The text of the parts of a string that is given by its bytes, if they are those of a text. -/
def octetText? (ps : List Piece) : Option String :=
  (assemble (fun c => [Text.Utf8.byte c]) String.utf8EncodeChar ps).bind Text.Utf8.decode?

/-- A string after its opening quote. -/
def string? (s : List Char) : Option (Option String × List Char) :=
  (pieces? s).map fun r => (octetText? r.1, r.2)

/-- The digits before the point: a single zero, or digits that do not start with zero. -/
def whole? : List Char → Option (List Char × List Char)
  | '0' :: rest => some (['0'], rest)
  | s =>
    match s.span Text.isAsciiDigit with
    | ([], _) => none
    | r => some r

/-- The digits after the point, if there is a point. -/
def fraction? : List Char → Option (List Char × List Char)
  | '.' :: rest =>
    match rest.span Text.isAsciiDigit with
    | ([], _) => none
    | (digits, rest) => some ('.' :: digits, rest)
  | s => some ([], s)

/-- The exponent with its sign, if there is one. -/
def exponent? : List Char → Option (List Char × List Char)
  | s@(e :: rest) =>
    if e == 'e' || e == 'E' then
      let (sign, rest) := match rest with
        | '+' :: r => (['+'], r)
        | '-' :: r => (['-'], r)
        | r => ([], r)
      match rest.span Text.isAsciiDigit with
      | ([], _) => none
      | (digits, rest) => some (e :: sign ++ digits, rest)
    else some ([], s)
  | [] => some ([], [])

/-- A number, by its characters. -/
def number? (s : List Char) : Option (List Char × List Char) := do
  let (sign, s) := match s with
    | '-' :: r => (['-'], r)
    | r => ([], r)
  let (digits, s) ← whole? s
  let (point, s) ← fraction? s
  let (power, s) ← exponent? s
  some (sign ++ digits ++ point ++ power, s)

/-- The text without the spaces at its start. -/
def skip (s : List Char) : List Char :=
  s.dropWhile isSpace

mutual

/-- A value and what follows it. The first argument bounds the number of calls. -/
def value? : Nat → List Char → Option (Json × List Char)
  | 0, _ => none
  | n + 1, s =>
    match skip s with
    | 'n' :: 'u' :: 'l' :: 'l' :: rest => some (.null, rest)
    | 't' :: 'r' :: 'u' :: 'e' :: rest => some (.bool true, rest)
    | 'f' :: 'a' :: 'l' :: 's' :: 'e' :: rest => some (.bool false, rest)
    | '"' :: rest => (string? rest).map fun r => (.string r.1, r.2)
    | '[' :: rest =>
      match skip rest with
      | ']' :: rest => some (.array [], rest)
      | rest => (items? n rest).map fun r => (.array r.1, r.2)
    | '\x7b' :: rest =>
      match skip rest with
      | '\x7d' :: rest => some (.object [], rest)
      | rest => (members? n rest).map fun r => (.object r.1, r.2)
    | s => (number? s).map fun r => (.number r.1, r.2)

/-- The items of an array up to its closing bracket; at least one. -/
def items? : Nat → List Char → Option (List Json × List Char)
  | 0, _ => none
  | n + 1, s => do
    let (item, rest) ← value? n s
    match skip rest with
    | ',' :: rest => (items? n rest).map fun r => (item :: r.1, r.2)
    | ']' :: rest => some ([item], rest)
    | _ => none

/-- The members of an object up to its closing brace; at least one. -/
def members? : Nat → List Char → Option (List (Option String × Json) × List Char)
  | 0, _ => none
  | n + 1, s => do
    let (key, rest) ← match skip s with
      | '"' :: rest => string? rest
      | _ => none
    let rest ← match skip rest with
      | ':' :: rest => some rest
      | _ => none
    let (item, rest) ← value? n rest
    match skip rest with
    | ',' :: rest => (members? n rest).map fun r => ((key, item) :: r.1, r.2)
    | '\x7d' :: rest => some ([(key, item)], rest)
    | _ => none

end

end PhoneVerification.Json.Reader

namespace PhoneVerification.Json

/-- The value that bytes hold. No call of the reader is made twice at one place, so twice the number
of the bytes bounds the number of calls. -/
def parseBytes? (bytes : List UInt8) : Option Json := do
  let (v, rest) ← Reader.value? (2 * bytes.length + 2) (bytes.map Text.Utf8.octet)
  if (Reader.skip rest).isEmpty then some v else none

/-- The value that a text holds. -/
def parse? (s : String) : Option Json :=
  parseBytes? (Text.Utf8.encode s)

end PhoneVerification.Json
