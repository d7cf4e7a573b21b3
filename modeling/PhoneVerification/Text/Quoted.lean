import PhoneVerification.Text.Category

/-!
# Quoted texts for log lines

A text between double quotes in which nothing invisible is left: quotes, backslashes and the
common control characters get a backslash, and every other character without a glyph of its own
is given by its number.
-/

namespace PhoneVerification.Text.Quoted

/-- Spacing marks that nevertheless belong to the character before them. -/
def extendingMarks : CharSet :=
  .ofText "
    9BE 9D7 B3E B57 BBE BD7 CC0 CC2 CC7-CC8 CCA-CCB CD5-CD6 D3E D57 DCF DDF 1715 1734 1B35 1B3B
    1B3D 1B43-1B44 1BAA 1BF2-1BF3 302E-302F A953 A9C0 111C0 11235 1133E 1134D 11357 113B8 113C2
    113C5 113C7-113C9 113CF 114B0 114BD 115AF 116B6 11930 1193D 11F41 16FF0-16FF1 1D165-1D166
    1D16D-1D172"

/-- Letters that leave their place empty. -/
def fillers : CharSet :=
  .ofText "115F-1160 3164 FFA0"

/-- Whether a character has no glyph of its own: controls, blanks other than the space, format
characters, marks that belong to the character before them, fillers, and numbers without a
character. -/
def isInvisible (c : Char) : Bool :=
  isControl c || (isBlank c && c != ' ') || isFormat c || isNonspacing c || isUnassigned c ||
    (!isBelowMarks c && (extendingMarks.contains c || fillers.contains c))

/-- How one character is written. -/
def escape (c : Char) : List Char :=
  if c == '"' then ['\\', '"']
  else if c == '\\' then ['\\', '\\']
  else if c == '\n' then ['\\', 'n']
  else if c == '\r' then ['\\', 'r']
  else if c == '\t' then ['\\', 't']
  else if c.toNat == 0 then ['\\', '0']
  else if isInvisible c then
    ['\\', 'u', '\x7b'] ++ Nat.toDigits 16 c.toNat ++ ['\x7d']
  else [c]

/-- The text between quotes. -/
def encode (s : String) : String :=
  String.ofList ('"' :: s.toList.flatMap escape ++ ['"'])

end PhoneVerification.Text.Quoted
