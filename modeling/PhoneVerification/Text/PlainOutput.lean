import PhoneVerification.Text.Ascii

/-!
# Plain output

A text for an output that is no terminal. Sequences that control a terminal are left out, and so
are all control characters but the blank ones.
-/

namespace PhoneVerification.Text.PlainOutput

/-- What a character belongs to: plain text, a sequence after an escape character, one with
intermediate characters, one with parameters, a string, or a command with its own end. -/
inductive Part
  | plain
  | escape
  | intermediate
  | parameters
  | string
  | command
  deriving DecidableEq, Repr

/-- Whether a character is a blank that is kept also within a sequence. -/
def isKeptBlank (c : Char) : Bool :=
  c == '\t' || c == '\n' || c == '\x0c' || c == '\r'

/-- Whether a character is kept in plain text. -/
def isKept (c : Char) : Bool :=
  isKeptBlank c || (0x20 ≤ c.toNat && c.toNat != 0x7F)

/-- Whether the bytes of a character hold the one that ends a string. -/
def endsString (c : Char) : Bool :=
  (String.utf8EncodeChar c).contains 0x9C

/-- What follows an escape character. -/
def afterEscape (c : Char) : Part :=
  let n := c.toNat
  if c == '[' then .parameters
  else if c == ']' then .command
  else if c == 'P' || c == 'X' || c == '^' || c == '_' then .string
  else if 0x20 ≤ n && n < 0x30 then .intermediate
  else if 0x30 ≤ n && n < 0x7F then .plain
  else .escape

/-- The part that goes on after a character which is left out. -/
def next (part : Part) (c : Char) : Part :=
  let n := c.toNat
  if n == 0x18 || n == 0x1A then .plain
  else if n == 0x1B then .escape
  else
    match part with
    | .plain => .plain
    | .escape => afterEscape c
    | .intermediate => if 0x30 ≤ n && n < 0x7F then .plain else .intermediate
    | .parameters => if 0x40 ≤ n && n < 0x7F then .plain else .parameters
    | .string => if endsString c then .plain else .string
    | .command => if n == 0x07 then .plain else .command

/-- Whether a character is kept in a part. -/
def keeps : Part → Char → Bool
  | .plain, c => isKept c
  | .escape, c | .intermediate, c | .parameters, c => isKeptBlank c
  | .string, _ | .command, _ => false

/-- Leaves out the sequences. A blank within a sequence is followed by plain text, until a control
character leads back into the sequence. -/
def keepPlain (part : Part) (inPlain : Bool) : List Char → List Char
  | [] => []
  | c :: rest =>
    if if inPlain then isKept c else keeps part c then
      c :: keepPlain (if c.toNat < 0x80 then part else .plain) true rest
    else keepPlain (next part c) false rest

/-- The text without control sequences. -/
def ofText (s : String) : String :=
  String.ofList (keepPlain .plain true s.toList)

end PhoneVerification.Text.PlainOutput
