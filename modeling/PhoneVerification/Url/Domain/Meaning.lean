import PhoneVerification.Text.Ascii
import PhoneVerification.Url.Domain.MeaningTable

/-!
# What characters of a host name stand for

In the name of a host a character stands for itself, for other characters or for none, or it may
not occur: capitals and variants stand for their usual small forms, and characters that only shape
the text around them vanish.
-/

namespace PhoneVerification.Url.Domain

/-- What a character stands for. `none` if it may not occur. -/
def meaning? (c : Char) : Option (List Char) :=
  let n := c.toNat
  if n < 0x80 then some [Text.lowerAscii c]
  else if vanishing.contains c then some []
  else if refused.contains c || Text.isUnassigned c then none
  else
    match replacements.find? fun r => r.contains n, expansions.lookup n with
    | some r, _ => some [Char.ofNat (r.imageOf n)]
    | none, some meaning => some (meaning.map Char.ofNat)
    | none, none => some [c]

/-- What a text stands for. -/
def meaningOf? (s : List Char) : Option (List Char) :=
  (s.mapM meaning?).map List.flatten

end PhoneVerification.Url.Domain
