import PhoneVerification.Flow.Step

/-!
# Faults

What goes wrong in this library itself. A refusal by the verification service is not a fault: it
is shown to the user.
-/

namespace PhoneVerification

inductive Fault
  | invalidConfig (reason : String)
  | invalidTransition (action : String) (step : Step)
  | busy
  | serialization (error : String)
  | network (url : String) (status : Option Nat) (error : String)
  deriving DecidableEq, Repr

namespace Fault

/-- The kind of a fault. -/
def kind : Fault → String
  | invalidConfig _ => "InvalidConfig"
  | invalidTransition _ _ => "InvalidTransition"
  | busy => "Busy"
  | serialization _ => "SerializationError"
  | network _ _ _ => "NetworkError"

/-- A status code, or the word for its absence. -/
def statusText : Option Nat → String
  | none => "None"
  | some status => "Some(" ++ toString status ++ ")"

/-- The fault in words. -/
def text : Fault → String
  | invalidConfig reason => "invalid_config: " ++ reason
  | invalidTransition action step =>
    "invalid_transition: cannot " ++ action ++ " while in " ++ Named.name step
  | busy => "busy"
  | serialization error => "serialization_error: " ++ error
  | network url status error =>
    "network_error: " ++ url ++ " (status: " ++ statusText status ++ "): " ++ error

end Fault

end PhoneVerification
