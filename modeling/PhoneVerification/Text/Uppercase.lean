import PhoneVerification.Text.CaseTable

/-!
# Capitals

The full capital form of a text, character by character. It does not depend on what stands
around a character, and a character may become up to three.
-/

namespace PhoneVerification.Text

/-- The capital of a character that has one of length one. -/
def singleCapital? (n : Nat) : Option Nat :=
  (CaseTable.singles.find? fun r => r.contains n).map fun r => r.imageOf n

/-- The capital form of a character. -/
def capitals (c : Char) : List Char :=
  match CaseTable.expansions.find? fun e => e.1 == c.toNat with
  | some e => e.2.map Char.ofNat
  | none =>
    match singleCapital? c.toNat with
    | some n => [Char.ofNat n]
    | none => [c]

/-- The text in capitals. -/
def uppercase (s : String) : String :=
  String.ofList (s.toList.flatMap capitals)

@[simp] theorem toList_uppercase (s : String) :
    (uppercase s).toList = s.toList.flatMap capitals :=
  String.toList_ofList

end PhoneVerification.Text
