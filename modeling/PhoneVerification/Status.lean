import PhoneVerification.Named

/-!
# Status messages

The one message that is shown above the forms.
-/

namespace PhoneVerification

/-- How a status message is styled. -/
inductive Severity
  | success
  | info
  | warning
  | danger
  deriving DecidableEq, Repr

namespace Severity

instance : Named Severity where
  all := [success, info, warning, danger]
  name
    | success => "success"
    | info => "info"
    | warning => "warning"
    | danger => "danger"
  mem_all := by intro a; cases a <;> decide
  find_name := by intro a; cases a <;> rfl

end Severity

/-- A message with its style. -/
structure StatusMessage where
  severity : Severity
  body : String
  deriving DecidableEq, Repr

/-- How the appearance of a message is logged. -/
def StatusMessage.logText (m : StatusMessage) : String :=
  "status " ++ Named.name m.severity ++ ": " ++ m.body

end PhoneVerification
