import PhoneVerification.Text.Ascii

/-!
# Digits

Reading and writing of whole numbers in bases up to sixteen.
-/

namespace PhoneVerification.Text

/-- The value of a digit in base sixteen, with letters of either case. -/
def digitValue? (c : Char) : Option Nat :=
  if isAsciiDigit c then some (c.toNat - '0'.toNat)
  else if 'a' ≤ c && c ≤ 'f' then some (c.toNat - 'a'.toNat + 10)
  else if 'A' ≤ c && c ≤ 'F' then some (c.toNat - 'A'.toNat + 10)
  else none

/-- The number written by a list of digits in the given base, most significant first. -/
def ofDigits? (base : Nat) (digits : List Char) : Option Nat :=
  digits.foldlM (fun n c => do
    let d ← digitValue? c
    if d < base then some (base * n + d) else none) 0

/-- A non-empty run of decimal digits; leading zeros are allowed. -/
def decimal? : List Char → Option Nat
  | [] => none
  | digits => ofDigits? 10 digits

/-- A decimal number below `limit`, after at most one plus sign. -/
def boundedDecimal? (limit : Nat) (s : String) : Option Nat := do
  let digits := match s.toList with
    | '+' :: rest => rest
    | all => all
  let n ← decimal? digits
  if n < limit then some n else none

/-- The digit of value `n` in small letters. -/
def smallDigit (n : Nat) : Char :=
  if n < 10 then Char.ofNat ('0'.toNat + n) else Char.ofNat ('a'.toNat + (n - 10))

/-- The digit of value `n` in capital letters. -/
def capitalDigit (n : Nat) : Char :=
  if n < 10 then Char.ofNat ('0'.toNat + n) else Char.ofNat ('A'.toNat + (n - 10))

/-- The two capital base sixteen digits of a byte. -/
def byteDigits (b : UInt8) : List Char :=
  [capitalDigit (b.toNat / 16), capitalDigit (b.toNat % 16)]

end PhoneVerification.Text
