import PhoneVerification.Named
import PhoneVerification.Text.Ascii

/-!
# Languages

The languages that texts and text messages come in.
-/

namespace PhoneVerification

inductive Locale
  | en
  | nl
  deriving DecidableEq, Repr, Inhabited

namespace Locale

/-- The code of the language, as it is printed and sent. -/
def code : Locale → String
  | en => "en"
  | nl => "nl"

instance : Named Locale where
  all := [en, nl]
  name := code
  mem_all := by intro a; cases a <;> decide
  find_name := by intro a; cases a <;> rfl

/-- The language with this code, in letters of either case. -/
def ofCode? (s : String) : Option Locale :=
  Named.ofName? (Text.lowerAsciiText s)

end Locale

end PhoneVerification
