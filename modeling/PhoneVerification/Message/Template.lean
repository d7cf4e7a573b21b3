/-!
# Message templates

A template is a text with at most one gap. `raw` shows the gap by its mark, `fill` puts a value
in its place.
-/

namespace PhoneVerification

/-- What may be missing in a template. -/
inductive Gap
  | count
  | time
  | number
  deriving DecidableEq, Repr

/-- How a gap is marked in a template. -/
def Gap.mark : Gap → String
  | count => "%n%"
  | time => "%time%"
  | number => "%number%"

/-- A text with at most one gap. -/
inductive Template
  | plain (text : String)
  | gapped (before : String) (gap : Gap) (after : String)
  deriving DecidableEq, Repr

namespace Template

/-- The template with its gap marked. -/
def raw : Template → String
  | plain text => text
  | gapped before gap after => before ++ gap.mark ++ after

/-- The template with a value in the given gap; another gap stays marked. -/
def fill (gap : Gap) (value : String) : Template → String
  | plain text => text
  | gapped before g after =>
    before ++ (if g = gap then value else g.mark) ++ after

@[simp] theorem fill_gapped (gap : Gap) (value before after : String) :
    (gapped before gap after).fill gap value = before ++ value ++ after := by
  simp [fill]

end Template

end PhoneVerification
