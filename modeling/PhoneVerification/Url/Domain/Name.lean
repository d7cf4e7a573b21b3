import PhoneVerification.Text.Composed
import PhoneVerification.Url.Domain.Direction
import PhoneVerification.Url.Domain.Joiner
import PhoneVerification.Url.Domain.Meaning
import PhoneVerification.Url.Punycode

/-!
# Host names in ASCII

A host name in any script has one form in ASCII. Its characters are replaced by what they stand
for and composed; then each label between dots is checked, and written in ASCII where it is not.
-/

namespace PhoneVerification.Url.Domain

/-- A label: the text it shows, and the text that stands for it in ASCII. -/
structure Label where
  text : List Char
  ascii : List Char
  deriving DecidableEq, Repr

def isAscii (s : List Char) : Bool :=
  s.all fun c => c.toNat < 0x80

/-- What a label in ASCII for characters beyond ASCII starts with. -/
def aceMark : List Char := ['x', 'n', '-', '-']

/-- Whether a text beyond ASCII may be a label. -/
def isProper (s : List Char) : Bool :=
  !(s.head?.map Text.isMark).getD false && joinersFit [] s && s.length ≤ 1000

/-- Whether a text is left as it is when it is replaced by what it stands for. -/
def isPlain (s : List Char) : Bool :=
  meaningOf? s == some s && Text.compose s == s

namespace Label

/-- Reads what follows the mark of a label that stands for characters beyond ASCII. -/
def ofAce? (s : List Char) : Option Label :=
  if isAscii s && s.getLast? != some '-' && s.length ≤ 2000 then do
    let text ← Punycode.decode? s
    if isPlain text && isProper text then some ⟨text, aceMark ++ s⟩ else none
  else none

/-- Reads a label in its plain form. -/
def of? (s : List Char) : Option Label :=
  match aceMark.isPrefixOf? s with
  | some rest => ofAce? rest
  | none =>
    if isAscii s then some ⟨s, s⟩
    else if isProper s then some ⟨s, aceMark ++ Punycode.encode s⟩
    else none

end Label

/-- The characters that no name may have. -/
def isForbidden (c : Char) : Bool :=
  c.toNat ≤ 0x20 || c.toNat == 0x7F || c == '%' || c == '#' || c == '/' || c == ':' ||
    c == '<' || c == '>' || c == '?' || c == '@' || c == '[' || c == '\\' || c == ']' ||
    c == '^' || c == '|'

/-- A host name in ASCII. -/
def ascii? (s : List Char) : Option (List Char) := do
  let meaning ← meaningOf? s
  let plain := Text.compose meaning
  if plain.any isForbidden then none
  else
    let labels ← (plain.splitOn '.').mapM Label.of?
    if Direction.allFit (labels.map Label.text) then
      some (['.'].intercalate (labels.map Label.ascii))
    else none

end PhoneVerification.Url.Domain
