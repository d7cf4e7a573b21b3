import PhoneVerification.Text.Ascii

/-!
# Punycode

The form of a label beyond ASCII in a host name: its ASCII characters, and after a hyphen the
places and numbers of the others as variable-length numbers in base thirty-six. `encode` writes
this form, and `decode?` reads it.
-/

namespace PhoneVerification.Url.Punycode

/-- The digit of value `n`: letters first. -/
def digit (n : Nat) : Char :=
  if n < 26 then Char.ofNat ('a'.toNat + n) else Char.ofNat ('0'.toNat + (n - 26))

/-- The value from which on a digit at place `k` is not the last one. -/
def threshold (bias k : Nat) : Nat :=
  min 26 (max 1 (k - bias))

theorem threshold_pos (bias k : Nat) : 1 ≤ threshold bias k := by
  unfold threshold
  omega

theorem threshold_le (bias k : Nat) : threshold bias k ≤ 26 := by
  unfold threshold
  omega

/-- A number as digits, the least significant first. -/
def numeral (bias k q : Nat) : List Char :=
  if h : q < threshold bias k then [digit q]
  else
    digit (threshold bias k + (q - threshold bias k) % (36 - threshold bias k)) ::
      numeral bias (k + 36) ((q - threshold bias k) / (36 - threshold bias k))
termination_by q
decreasing_by
  have h₁ := threshold_pos bias k
  have h₂ := Nat.div_le_self (q - threshold bias k) (36 - threshold bias k)
  omega

/-- Divides by thirty-five until the number is small, and counts the steps. -/
def damp (delta steps : Nat) : Nat × Nat :=
  if 455 < delta then damp (delta / 35) (steps + 1) else (delta, steps)
termination_by delta
decreasing_by omega

/-- The bias after a number was written as the `count`th character. -/
def nextBias (delta count : Nat) (first : Bool) : Nat :=
  let delta := if first then delta / 700 else delta / 2
  let (delta, steps) := damp (delta + delta / count) 0
  36 * steps + 36 * delta / (delta + 38)

/-- What is known while the characters are written in the order of their numbers. -/
structure State where
  out : List Char
  delta : Nat
  bias : Nat
  count : Nat

/-- Passes one character of the label while the characters of number `m` are written. -/
def visit (basics m : Nat) (s : State) (c : Char) : State :=
  if c.toNat < m then { s with delta := s.delta + 1 }
  else if c.toNat == m then
    { out := s.out ++ numeral s.bias 36 s.delta
      delta := 0
      bias := nextBias s.delta (s.count + 1) (s.count == basics)
      count := s.count + 1 }
  else s

/-- Writes the characters with the given numbers, which rise from `n` on. -/
def write (label : List Char) (basics : Nat) : List Nat → Nat → State → State
  | [], _, s => s
  | m :: rest, n, s =>
    let s := label.foldl (visit basics m) { s with delta := s.delta + (m - n) * (s.count + 1) }
    write label basics rest (m + 1) { s with delta := s.delta + 1 }

/-- The numbers of the characters beyond ASCII, rising and each once. -/
def numbers (label : List Char) : List Nat :=
  ((label.filter fun c => 0x80 ≤ c.toNat).map Char.toNat).mergeSort.eraseDups

/-- The label in ASCII. -/
def encode (label : List Char) : List Char :=
  let basic := label.filter fun c => c.toNat < 0x80
  let start : State := ⟨[], 0, 72, basic.length⟩
  basic ++ (if basic.isEmpty then [] else ['-']) ++
    (write label basic.length (numbers label) 0x80 start).out

/-- The value of a digit, with letters of either case. -/
def value? (c : Char) : Option Nat :=
  if Text.isAsciiLetter c then some ((Text.lowerAscii c).toNat - 'a'.toNat)
  else if Text.isAsciiDigit c then some (c.toNat - '0'.toNat + 26)
  else none

/-- What is read has to stay below this number. -/
def limit : Nat := UInt32.size

/-- Reads a number and adds it to `total`. Gives the sum and what is left. -/
def readNumeral? (bias k weight total : Nat) : List Char → Option (Nat × List Char)
  | [] => none
  | c :: rest =>
    match value? c with
    | none => none
    | some d =>
      let total := total + d * weight
      let weight' := weight * (36 - threshold bias k)
      if limit ≤ total then none
      else if d < threshold bias k then some (total, rest)
      else if limit ≤ weight' then none
      else readNumeral? bias (k + 36) weight' total rest

theorem length_of_readNumeral? {bias k weight total : Nat} {s : List Char} {r : Nat × List Char}
    (h : readNumeral? bias k weight total s = some r) : r.2.length < s.length := by
  fun_induction readNumeral? bias k weight total s with
  | case1 => simp at h
  | case2 => simp at h
  | case3 => simp at h
  | case4 => obtain rfl := Option.some.inj h; simp
  | case5 => simp at h
  | case6 _ _ _ _ _ _ _ _ _ _ _ _ ih => exact Nat.lt_succ_of_lt (ih h)

/-- Whether a number is that of a character. -/
def isCharacter (n : Nat) : Bool :=
  n < 0xD800 || (0xDFFF < n && n < 0x110000)

/-- Puts characters into a label as their places and numbers say. `n` is the number of the last
one and `total` the place after it. -/
def insertAll? (bias n total : Nat) (label : List Char) (s : List Char) : Option (List Char) :=
  if s.isEmpty then some label
  else
    match _h : readNumeral? bias 36 1 total s with
    | none => none
    | some (sum, rest) =>
      let count := label.length + 1
      let m := n + sum / count
      if isCharacter m then
        insertAll? (nextBias (sum - total) count (total == 0)) m (sum % count + 1)
          (label.insertIdx (sum % count) (Char.ofNat m)) rest
      else none
termination_by s.length
decreasing_by exact length_of_readNumeral? _h

/-- The label written by a text in ASCII. -/
def decode? (s : List Char) : Option (List Char) :=
  match s.reverse.span (· != '-') with
  | (places, _ :: basic) =>
    if basic.isEmpty then none else insertAll? 72 0x80 0 basic.reverse places.reverse
  | (places, []) => insertAll? 72 0x80 0 [] places.reverse

end PhoneVerification.Url.Punycode
