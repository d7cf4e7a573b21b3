import PhoneVerification.Text.Category
import PhoneVerification.Text.CompositionTable

/-!
# Composed form

A character with marks can often be written in several ways. `compose` brings a text into the one
way in which the marks stand in order and as few characters are used as possible.
-/

namespace PhoneVerification.Text

open CompositionTable (Pair)

/-- The class of a mark. Every other character has class zero. -/
def combiningClass (c : Char) : Nat :=
  if isBelowMarks c then 0
  else ((CompositionTable.classes.find? fun row => row.2.contains c).map Prod.fst).getD 0

/-! A syllable of Hangul is numbered by its first consonant, its vowel and the consonant that may
close it. -/

namespace Hangul

/-- The first of the syllables, which come in groups of 28 with the same start. -/
def syllables : Span := ⟨0xAC00, 0xD7A3⟩

def leads : Span := ⟨0x1100, 0x1112⟩

def vowels : Span := ⟨0x1161, 0x1175⟩

def closers : Span := ⟨0x11A8, 0x11C2⟩

/-- The syllable of two characters. -/
def join? (a b : Nat) : Option Nat :=
  if leads.contains a && vowels.contains b then
    some (syllables.first + ((a - leads.first) * 21 + (b - vowels.first)) * 28)
  else if syllables.contains a && (a - syllables.first) % 28 == 0 && closers.contains b then
    some (a + (b - closers.first) + 1)
  else none

/-- The two characters of a syllable. -/
def split? (n : Nat) : Option (Nat × Nat) :=
  if syllables.contains n then
    let i := n - syllables.first
    if i % 28 == 0 then some (leads.first + i / 28 / 21, vowels.first + i / 28 % 21)
    else some (n - i % 28, closers.first + (i % 28 - 1))
  else none

end Hangul

/-- The character that stands for two. -/
def joinPair? (a b : Char) : Option Char :=
  (Hangul.join? a.toNat b.toNat <|>
    (CompositionTable.pairs.find? fun p => p.first == a.toNat && p.second == b.toNat).map
      Pair.whole).map Char.ofNat

/-- The two characters that a character stands for, or itself. -/
def splitPair (c : Char) : List Char :=
  match Hangul.split? c.toNat with
  | some (a, b) => [Char.ofNat a, Char.ofNat b]
  | none =>
    match CompositionTable.pairs.find? fun p => p.whole == c.toNat with
    | some p => [Char.ofNat p.first, Char.ofNat p.second]
    | none => [c]

/-- All characters that a text stands for. A character is put together in at most three steps. -/
def decompose (s : List Char) : List Char :=
  ((s.flatMap splitPair).flatMap splitPair).flatMap splitPair

/-- Marks in the order of their classes. Marks of one class keep their order. -/
def sortMarks (marks : List Char) : List Char :=
  marks.mergeSort fun a b => combiningClass a ≤ combiningClass b

/-- Brings every run of marks into order, the marks of a run that has begun among them. -/
def orderMarks (begun : List Char) : List Char → List Char
  | [] => sortMarks begun
  | c :: rest =>
    if combiningClass c == 0 then sortMarks begun ++ c :: orderMarks [] rest
    else orderMarks (begun ++ [c]) rest

/-- Joins a character with those of the following that combine with it. `skipped` holds the marks
passed over so far, the last one first; a mark of the same or a higher class before a character
keeps it apart. -/
def joinFrom (base : Char) (skipped : List Char) : List Char → List Char
  | [] => base :: skipped.reverse
  | c :: rest =>
    let isApart := match skipped with
      | [] => false
      | mark :: _ => combiningClass c ≤ combiningClass mark
    match if isApart then none else joinPair? base c with
    | some whole => joinFrom whole skipped rest
    | none =>
      if combiningClass c == 0 then base :: skipped.reverse ++ joinFrom c [] rest
      else joinFrom base (c :: skipped) rest

/-- Joins all characters that combine. Marks at the start have nothing to combine with. -/
def joinAll : List Char → List Char
  | [] => []
  | c :: rest => if combiningClass c == 0 then joinFrom c [] rest else c :: joinAll rest

/-- The composed form of a text. Characters below the marks neither combine nor move. -/
def compose (s : List Char) : List Char :=
  if s.all isBelowMarks then s else joinAll (orderMarks [] (decompose s))

end PhoneVerification.Text
