import PhoneVerification.Text.Ascii

/-!
# Regions

The regions whose numbers can be verified, with the calling code of each. The calling codes form
a code without ambiguity: none of them is the beginning of another.
-/

namespace PhoneVerification

/-- A region by its two capital letters. -/
structure Region where
  name : String
  callingCode : String
  deriving DecidableEq, Repr

namespace Region

/-- All known regions, in the order in which they are offered. -/
def known : List Region :=
  [⟨"AT", "43"⟩, ⟨"BE", "32"⟩, ⟨"BG", "359"⟩, ⟨"CY", "357"⟩, ⟨"CZ", "420"⟩, ⟨"DE", "49"⟩,
    ⟨"DK", "45"⟩, ⟨"EE", "372"⟩, ⟨"ES", "34"⟩, ⟨"FI", "358"⟩, ⟨"FR", "33"⟩, ⟨"GB", "44"⟩,
    ⟨"GR", "30"⟩, ⟨"HR", "385"⟩, ⟨"HU", "36"⟩, ⟨"IE", "353"⟩, ⟨"IS", "354"⟩, ⟨"IT", "39"⟩,
    ⟨"LI", "423"⟩, ⟨"LT", "370"⟩, ⟨"LU", "352"⟩, ⟨"LV", "371"⟩, ⟨"MC", "377"⟩, ⟨"MT", "356"⟩,
    ⟨"NL", "31"⟩, ⟨"NO", "47"⟩, ⟨"PL", "48"⟩, ⟨"PT", "351"⟩, ⟨"RO", "40"⟩, ⟨"SE", "46"⟩,
    ⟨"SI", "386"⟩, ⟨"SK", "421"⟩, ⟨"CH", "41"⟩]

/-- The known region of this name, in letters of either case. -/
def find? (name : String) : Option Region :=
  known.find? fun r => r.name == Text.upperAsciiText name

/-- The calling code of a region, if the region is known. -/
def callingCode? (name : String) : Option String :=
  (find? name).map callingCode

theorem mem_known_of_find? {name : String} {r : Region} (h : find? name = some r) : r ∈ known :=
  List.mem_of_find?_eq_some h

theorem name_of_find? {name : String} {r : Region} (h : find? name = some r) :
    r.name = Text.upperAsciiText name := by
  have := List.find?_some h
  exact eq_of_beq this

/-- The Netherlands, whose numbering plan is known in more detail. -/
def netherlands : Region := ⟨"NL", "31"⟩

end Region

end PhoneVerification
