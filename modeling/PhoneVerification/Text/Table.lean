import PhoneVerification.Text.Blank
import PhoneVerification.Text.Digits

/-!
# Tables of characters

Long tables are kept as texts: rows of numbers in base sixteen, with hyphens between the numbers of
a row and blanks between the rows. A row of one or two numbers can be a span of characters, a row
of two to four numbers a run of characters with images at the same distances.
-/

namespace PhoneVerification.Text

/-- The rows of a table. -/
def tableRows (s : String) : List (List Nat) :=
  ((s.toList.splitOnP isBlank).filter fun row => !row.isEmpty).filterMap fun row =>
    (row.splitOn '-').mapM (ofDigits? 16)

/-- The characters from `first` to `last`. -/
structure Span where
  first : Nat
  last : Nat
  deriving DecidableEq, Repr

namespace Span

/-- Whether a number lies in a span. -/
def contains (s : Span) (n : Nat) : Bool :=
  s.first ≤ n && n ≤ s.last

/-- Reads a row: the ends of a span, or a single character. -/
def ofRow? : List Nat → Option Span
  | [n] => some ⟨n, n⟩
  | [first, last] => some ⟨first, last⟩
  | _ => none

end Span

/-- A set of characters as a list of spans. -/
structure CharSet where
  spans : List Span
  deriving DecidableEq, Repr

namespace CharSet

/-- Whether a character belongs to a set. -/
def contains (set : CharSet) (c : Char) : Bool :=
  set.spans.any fun s => s.contains c.toNat

/-- Reads the table of a set. -/
def ofText (s : String) : CharSet :=
  ⟨(tableRows s).filterMap Span.ofRow?⟩

end CharSet

/-- The characters `first`, `first + step` and so on up to `last`, whose images start at `image`
and keep the same distances. -/
structure Run where
  first : Nat
  last : Nat
  step : Nat
  image : Nat
  deriving DecidableEq, Repr

namespace Run

/-- Whether a character belongs to a run. -/
def contains (r : Run) (n : Nat) : Bool :=
  r.first ≤ n && n ≤ r.last && (n - r.first) % r.step == 0

/-- The image of a character of a run. -/
def imageOf (r : Run) (n : Nat) : Nat :=
  r.image + (n - r.first)

/-- Reads a row: a character and its image, or the ends of a run, its image and its step. A step
of one is left out. -/
def ofRow? : List Nat → Option Run
  | [n, image] => some ⟨n, n, 1, image⟩
  | [first, last, image] => some ⟨first, last, 1, image⟩
  | [first, last, image, step] => some ⟨first, last, step, image⟩
  | _ => none

end Run

end PhoneVerification.Text
