import PhoneVerification.Named
import PhoneVerification.Status

/-!
# Steps and views

What the user is asked for, and a snapshot of everything that is shown.
-/

namespace PhoneVerification

/-- A step of the verification. Exactly one step is shown at a time. -/
inductive Step
  | phone
  | confirm
  | token
  | done
  deriving DecidableEq, Repr

namespace Step

instance : Named Step where
  all := [phone, confirm, token, done]
  name
    | phone => "phone"
    | confirm => "confirm"
    | token => "token"
    | done => "done"
  mem_all := by intro a; cases a <;> decide
  find_name := by intro a; cases a <;> rfl

end Step

/-- What the back control does. -/
inductive BackAction
  | navigate (step : Step)
  | history
  | hidden
  deriving DecidableEq, Repr

/-- How far the current attempt has come. -/
inductive Attempt
  | notSent
  | sent
  | verified
  | failed
  deriving DecidableEq, Repr

namespace Attempt

instance : Named Attempt where
  all := [notSent, sent, verified, failed]
  name
    | notSent => "not-sent"
    | sent => "sent"
    | verified => "verified"
    | failed => "failed"
  mem_all := by intro a; cases a <;> decide
  find_name := by intro a; cases a <;> rfl

end Attempt

/-- Everything that is shown at one moment. -/
structure View where
  step : Step
  buttonLabel : Option String
  back : BackAction
  status : Option StatusMessage
  phoneInput : String
  phoneDisabled : Bool
  codeInput : String
  codeDisabled : Bool
  confirmNumber : Option String
  deriving DecidableEq, Repr

end PhoneVerification
