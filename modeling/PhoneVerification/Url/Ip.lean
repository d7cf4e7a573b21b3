import PhoneVerification.Text.Digits

/-!
# Numeric hosts

Addresses of four bytes, written as up to four numbers in base ten, eight or sixteen, and
addresses of eight groups of sixteen bits.
-/

namespace PhoneVerification.Url.Ip

/-- One number of an address: a leading `0x` asks for base sixteen, a leading zero for base
eight. -/
def part? : List Char → Option Nat
  | [] => none
  | '0' :: 'x' :: digits => Text.ofDigits? 16 digits
  | '0' :: 'X' :: digits => Text.ofDigits? 16 digits
  | '0' :: d :: digits => Text.ofDigits? 8 (d :: digits)
  | digits => Text.ofDigits? 10 digits

/-- The parts between the dots, without an empty last one. -/
def parts (s : List Char) : List (List Char) :=
  let all := s.splitOn '.'
  if all.getLast? == some [] then all.dropLast else all

/-- Whether a host name ends in a number, so that it has to be an address. -/
def endsInNumber (s : List Char) : Bool :=
  match (parts s).getLast? with
  | none => false
  | some last => (!last.isEmpty && last.all Text.isAsciiDigit) || (part? last).isSome

/-- The value of an address of numbers, of which the last fills all bytes that are left. -/
def combine? (numbers : List Nat) : Option Nat :=
  match numbers.getLast? with
  | none => none
  | some last =>
    let front := numbers.dropLast
    if front.length ≤ 3 && front.all (· ≤ 255) && last < Nat.pow 256 (4 - front.length) then
      some (front.foldl (fun n b => 256 * n + b) 0 * Nat.pow 256 (4 - front.length) + last)
    else none

/-- Reads an address of four bytes. -/
def v4? (s : List Char) : Option Nat :=
  ((parts s).mapM part?).bind combine?

/-- An address of four bytes in its usual form. -/
def v4Chars (n : Nat) : List Char :=
  Nat.toDigits 10 (n / Nat.pow 256 3 % 256) ++ '.' :: Nat.toDigits 10 (n / Nat.pow 256 2 % 256) ++
    '.' :: Nat.toDigits 10 (n / 256 % 256) ++ '.' :: Nat.toDigits 10 (n % 256)

/-- A group of one to four digits in base sixteen. -/
def group? (s : List Char) : Option Nat :=
  if s.isEmpty || 4 < s.length then none else Text.ofDigits? 16 s

/-- A byte in base ten without a leading zero. -/
def plainByte? (s : List Char) : Option Nat :=
  match s with
  | [] => none
  | ['0'] => some 0
  | '0' :: _ => none
  | digits => do
    let n ← if digits.all Text.isAsciiDigit then Text.ofDigits? 10 digits else none
    if n ≤ 255 then some n else none

/-- The two groups of an address of four bytes at the end of a longer one. -/
def embedded? (s : List Char) : Option (List Nat) :=
  match (s.splitOn '.').mapM plainByte? with
  | some [a, b, c, d] => some [256 * a + b, 256 * c + d]
  | _ => none

/-- The groups written between single colons. The last may be an address of four bytes if
`last` says so. -/
def groups? (last : Bool) (s : List Char) : Option (List Nat) :=
  if s.isEmpty then some []
  else
    let texts := s.splitOn ':'
    match texts.mapM group? with
    | some gs => some gs
    | none =>
      if last then do
        let front ← texts.dropLast.mapM group?
        let tail ← (texts.getLast?).bind embedded?
        some (front ++ tail)
      else none

/-- The text before the first double colon and the text after it. -/
def splitDouble : List Char → Option (List Char × List Char)
  | ':' :: ':' :: rest => some ([], rest)
  | c :: rest => (splitDouble rest).map fun r => (c :: r.1, r.2)
  | [] => none

/-- Reads an address of eight groups. A double colon stands for the groups that are missing. -/
def v6? (s : List Char) : Option (List Nat) :=
  match splitDouble s with
  | none => do
    let gs ← groups? true s
    if gs.length == 8 then some gs else none
  | some (before, after) => do
    let front ← groups? false before
    let back ← groups? true after
    if front.length + back.length ≤ 7 then
      some (front ++ List.replicate (8 - front.length - back.length) 0 ++ back)
    else none

/-- The longest run of zero groups, the first of equals, as its start and its length. -/
def longestRun (gs : List Nat) : Nat × Nat :=
  let step := fun (best : Nat × Nat) (i : Nat) =>
    let n := ((gs.drop i).takeWhile (· == 0)).length
    if best.2 < n then (i, n) else best
  (List.range gs.length).foldl step (0, 0)

/-- Groups between colons. -/
def joinGroups (gs : List Nat) : List Char :=
  [':'].intercalate (gs.map (Nat.toDigits 16))

/-- An address of eight groups in its shortest form. -/
def v6Chars (gs : List Nat) : List Char :=
  let (start, n) := longestRun gs
  if n < 2 then joinGroups gs
  else joinGroups (gs.take start) ++ ':' :: ':' :: joinGroups (gs.drop (start + n))

end PhoneVerification.Url.Ip
