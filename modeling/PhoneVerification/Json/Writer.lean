import PhoneVerification.Json.Basic

/-!
# Writing of JSON

`compact` writes a value without spaces, `pretty` with one item a line. A string that cannot be
read is written as the shortest such string.
-/

namespace PhoneVerification.Json

/-- How a character stands in a string: quotes, backslashes and controls are escaped. -/
def escape (c : Char) : List Char :=
  if c == '"' then ['\\', '"']
  else if c == '\\' then ['\\', '\\']
  else if c == '\x08' then ['\\', 'b']
  else if c == '\x0c' then ['\\', 'f']
  else if c == '\n' then ['\\', 'n']
  else if c == '\r' then ['\\', 'r']
  else if c == '\t' then ['\\', 't']
  else if c.toNat < 0x20 then
    ['\\', 'u', '0', '0', Text.smallDigit (c.toNat / 16), Text.smallDigit (c.toNat % 16)]
  else [c]

/-- A string between its quotes. -/
def quote : Option String → List Char
  | some s => '"' :: s.toList.flatMap escape ++ ['"']
  | none => ['"', '\\', 'u', 'd', '8', '0', '0', '"']

mutual

/-- The characters of a value without spaces. -/
def compactChars : Json → List Char
  | null => ['n', 'u', 'l', 'l']
  | bool true => ['t', 'r', 'u', 'e']
  | bool false => ['f', 'a', 'l', 's', 'e']
  | number literal => literal
  | string s => quote s
  | array [] => ['[', ']']
  | array (v :: vs) => '[' :: compactChars v ++ compactItems vs
  | object [] => ['\x7b', '\x7d']
  | object ((k, v) :: ms) => '\x7b' :: quote k ++ ':' :: compactChars v ++ compactMembers ms

/-- The rest of an array after one of its items. -/
def compactItems : List Json → List Char
  | [] => [']']
  | v :: vs => ',' :: compactChars v ++ compactItems vs

/-- The rest of an object after one of its members. -/
def compactMembers : List (Option String × Json) → List Char
  | [] => ['\x7d']
  | (k, v) :: ms => ',' :: quote k ++ ':' :: compactChars v ++ compactMembers ms

end

/-- A new line with the indentation of a depth. -/
def indent (depth : Nat) : List Char :=
  '\n' :: List.replicate (2 * depth) ' '

mutual

/-- The characters of a value at a depth, one item a line. -/
def prettyChars (depth : Nat) : Json → List Char
  | null => ['n', 'u', 'l', 'l']
  | bool true => ['t', 'r', 'u', 'e']
  | bool false => ['f', 'a', 'l', 's', 'e']
  | number literal => literal
  | string s => quote s
  | array [] => ['[', ']']
  | array (v :: vs) =>
    '[' :: indent (depth + 1) ++ prettyChars (depth + 1) v ++ prettyItems depth vs
  | object [] => ['\x7b', '\x7d']
  | object ((k, v) :: ms) =>
    '\x7b' :: indent (depth + 1) ++ quote k ++ ':' :: ' ' :: prettyChars (depth + 1) v ++
      prettyMembers depth ms

/-- The rest of an array at a depth after one of its items. -/
def prettyItems (depth : Nat) : List Json → List Char
  | [] => indent depth ++ [']']
  | v :: vs => ',' :: indent (depth + 1) ++ prettyChars (depth + 1) v ++ prettyItems depth vs

/-- The rest of an object at a depth after one of its members. -/
def prettyMembers (depth : Nat) : List (Option String × Json) → List Char
  | [] => indent depth ++ ['\x7d']
  | (k, v) :: ms =>
    ',' :: indent (depth + 1) ++ quote k ++ ':' :: ' ' :: prettyChars (depth + 1) v ++
      prettyMembers depth ms

end

/-- The text of a value without spaces. -/
def compact (v : Json) : String :=
  String.ofList (compactChars v)

/-- The text of a value with one item a line. -/
def pretty (v : Json) : String :=
  String.ofList (prettyChars 0 v)

end PhoneVerification.Json
