/-!
# Blank characters

The characters with the Unicode property White_Space, and the removal of such characters from
both ends of a text.
-/

namespace PhoneVerification.Text

/-- The twenty-five characters with the property White_Space. -/
def isBlank (c : Char) : Bool :=
  let n := c.toNat
  (0x09 ≤ n && n ≤ 0x0D) || n == 0x20 || n == 0x85 || n == 0xA0 || n == 0x1680 ||
    (0x2000 ≤ n && n ≤ 0x200A) || n == 0x2028 || n == 0x2029 || n == 0x202F || n == 0x205F ||
    n == 0x3000

/-- Drops the longest tail whose members all satisfy `p`. -/
def dropTail {α : Type} (p : α → Bool) (s : List α) : List α :=
  (s.reverse.dropWhile p).reverse

/-- Drops the characters that satisfy `p` at both ends. -/
def strip (p : Char → Bool) (s : List Char) : List Char :=
  dropTail p (s.dropWhile p)

/-- A text without the blanks at its ends. -/
def trim (s : String) : String :=
  String.ofList (strip isBlank s.toList)

@[simp] theorem toList_trim (s : String) : (trim s).toList = strip isBlank s.toList :=
  String.toList_ofList

/-- Whether nothing but blanks is in the text. -/
def isBlankText (s : String) : Bool :=
  (trim s).isEmpty

end PhoneVerification.Text
