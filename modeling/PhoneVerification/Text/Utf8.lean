/-!
# UTF-8

The bytes of a text, and the reading of bytes that need not be the bytes of any text. A maximal
piece that cannot be continued to a character is one defect: `decode?` refuses it, and
`decodeLossy` puts the replacement character in its place.
-/

namespace PhoneVerification.Text.Utf8

/-- The bytes of a text. -/
def encode (s : String) : List UInt8 :=
  s.toList.flatMap String.utf8EncodeChar

/-- What the first byte of a longer sequence announces: the bits it carries, how many bytes
follow, and the range of the first of these. -/
structure Lead where
  bits : Nat
  following : Nat
  low : Nat
  high : Nat

/-- The announcement of a first byte. `none` for a byte that starts no longer sequence. -/
def lead? (b : Nat) : Option Lead :=
  if 0xC2 ≤ b && b ≤ 0xDF then some ⟨b - 0xC0, 1, 0x80, 0xBF⟩
  else if b == 0xE0 then some ⟨0, 2, 0xA0, 0xBF⟩
  else if b == 0xED then some ⟨0xD, 2, 0x80, 0x9F⟩
  else if 0xE1 ≤ b && b ≤ 0xEF then some ⟨b - 0xE0, 2, 0x80, 0xBF⟩
  else if b == 0xF0 then some ⟨0, 3, 0x90, 0xBF⟩
  else if 0xF1 ≤ b && b ≤ 0xF3 then some ⟨b - 0xF0, 3, 0x80, 0xBF⟩
  else if b == 0xF4 then some ⟨4, 3, 0x80, 0x8F⟩
  else none

/-- Reads the bytes that follow a first byte, the next one within the given range. Gives the
character, or `none` where the sequence breaks off, and what is left. -/
def continuation (bits : Nat) : Nat → Nat → Nat → List UInt8 → Option Char × List UInt8
  | 0, _, _, rest => (some (Char.ofNat bits), rest)
  | _ + 1, _, _, [] => (none, [])
  | n + 1, low, high, b :: rest =>
    if low ≤ b.toNat && b.toNat ≤ high then
      continuation (64 * bits + (b.toNat - 0x80)) n 0x80 0xBF rest
    else (none, b :: rest)

theorem length_continuation (bits n low high : Nat) (bytes : List UInt8) :
    (continuation bits n low high bytes).2.length ≤ bytes.length := by
  induction n generalizing bits low high bytes with
  | zero => simp [continuation]
  | succ n ih =>
    cases bytes with
    | nil => simp [continuation]
    | cons b rest =>
      rw [continuation]
      split
      · exact Nat.le_succ_of_le (ih ..)
      · simp

/-- The characters of a list of bytes, with `none` for every defect. -/
def pieces : List UInt8 → List (Option Char)
  | [] => []
  | b :: rest =>
    if b.toNat < 0x80 then some (Char.ofNat b.toNat) :: pieces rest
    else
      match lead? b.toNat with
      | none => none :: pieces rest
      | some l =>
        (continuation l.bits l.following l.low l.high rest).1 ::
          pieces (continuation l.bits l.following l.low l.high rest).2
termination_by bytes => bytes.length
decreasing_by
  · simp
  · simp
  · exact Nat.lt_succ_of_le (length_continuation ..)

/-- The text whose bytes these are, if there is one. -/
def decode? (bytes : List UInt8) : Option String :=
  ((pieces bytes).mapM id).map String.ofList

/-- A byte as the character of its number. -/
def octet (b : UInt8) : Char :=
  Char.ofNat b.toNat

/-- The byte that a character stands for, if it stands for one. -/
def byte (c : Char) : UInt8 :=
  UInt8.ofNat c.toNat

/-- The text of the bytes, each defect read as U+FFFD. A byte order mark is a character. -/
def decodeLossy (bytes : List UInt8) : String :=
  String.ofList ((pieces bytes).map fun c => c.getD '\uFFFD')

end PhoneVerification.Text.Utf8
