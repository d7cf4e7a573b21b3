import PhoneVerification.Text.Blank
import PhoneVerification.Text.Digits

/-!
# Retry windows

How long a user is asked to wait before the next request, and the whole number of seconds,
minutes or hours in which that is announced.
-/

namespace PhoneVerification

/-- A wait in seconds. -/
structure RetryWindow where
  seconds : UInt64
  deriving DecidableEq, Repr

/-- The unit a wait is announced in. -/
inductive WaitUnit
  | seconds
  | minutes
  | hours
  deriving DecidableEq, Repr

/-- How many seconds a unit has. -/
def WaitUnit.length : WaitUnit → UInt64
  | seconds => 1
  | minutes => 60
  | hours => 3600

namespace RetryWindow

/-- Reads a whole number of seconds as it stands in a header, blanks around it ignored. -/
def ofHeader? (value : String) : Option RetryWindow :=
  (Text.boundedDecimal? UInt64.size (Text.trim value)).map fun n => ⟨UInt64.ofNat n⟩

/-- The quotient rounded to the nearest whole number, halves upwards. No sum is formed that could
leave the range of the numbers. -/
def roundHalfUp (value unit : UInt64) : UInt64 :=
  if value % unit ≥ unit / 2 then value / unit + 1 else value / unit

/-- The unit a wait is announced in: seconds below a minute, minutes below an hour. -/
def unit (w : RetryWindow) : WaitUnit :=
  if w.seconds < WaitUnit.minutes.length then .seconds
  else if w.seconds < WaitUnit.hours.length then .minutes
  else .hours

/-- The wait as a number of its unit. -/
def scaled (w : RetryWindow) : UInt64 × WaitUnit :=
  match w.unit with
  | .seconds => (w.seconds, .seconds)
  | u => (roundHalfUp w.seconds u.length, u)

end RetryWindow

end PhoneVerification
