/-!
# ASCII letters and digits

Case rules that touch the letters A to Z only, and the digits of the three usual bases.
-/

namespace PhoneVerification.Text

def isAsciiUpper (c : Char) : Bool := 'A' ≤ c && c ≤ 'Z'

def isAsciiLower (c : Char) : Bool := 'a' ≤ c && c ≤ 'z'

def isAsciiLetter (c : Char) : Bool := isAsciiUpper c || isAsciiLower c

def isAsciiDigit (c : Char) : Bool := '0' ≤ c && c ≤ '9'

/-- A letter a to z becomes its capital; every other character stays. -/
def upperAscii (c : Char) : Char :=
  if isAsciiLower c then Char.ofNat (c.toNat - 32) else c

/-- A letter A to Z becomes its small form; every other character stays. -/
def lowerAscii (c : Char) : Char :=
  if isAsciiUpper c then Char.ofNat (c.toNat + 32) else c

/-- The text with the letters a to z as capitals. -/
def upperAsciiText (s : String) : String :=
  String.ofList (s.toList.map upperAscii)

/-- The text with the letters A to Z in small form. -/
def lowerAsciiText (s : String) : String :=
  String.ofList (s.toList.map lowerAscii)

/-- Equal up to the case of the letters A to Z. -/
def sameAscii (s t : String) : Bool :=
  lowerAsciiText s == lowerAsciiText t

/-- What follows `start`, if the text starts with it. -/
def after? (start s : String) : Option String :=
  (start.toList.isPrefixOf? s.toList).map String.ofList

end PhoneVerification.Text
