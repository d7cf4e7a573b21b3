import PhoneVerification.Named
import PhoneVerification.Text.Ascii

/-!
# Log records

A record reaches the host if it is at least informative or comes from this library.
-/

namespace PhoneVerification.Log

inductive Level
  | error
  | warn
  | info
  | debug
  | trace
  deriving DecidableEq, Repr

namespace Level

instance : Named Level where
  all := [error, warn, info, debug, trace]
  name
    | error => "error"
    | warn => "warn"
    | info => "info"
    | debug => "debug"
    | trace => "trace"
  mem_all := by intro a; cases a <;> decide
  find_name := by intro a; cases a <;> rfl

/-- The name of a level at the head of a line. -/
def label (l : Level) : String :=
  Text.upperAsciiText (Named.name l)

/-- Whether records of this level are passed on from every source. -/
def isInformative : Level → Bool
  | error | warn | info => true
  | debug | trace => false

end Level

/-- A record with the name of the part of the program it comes from. -/
structure Record where
  level : Level
  target : String
  message : String
  deriving DecidableEq, Repr

/-- What the names of this library's own parts start with. -/
def ownTarget : String := "phonekit"

namespace Record

/-- A record of this library. -/
def own (level : Level) (message : String) : Record :=
  ⟨level, ownTarget, message⟩

/-- Whether the host receives the record. -/
def isPassedOn (r : Record) : Bool :=
  r.level.isInformative || ownTarget.toList.isPrefixOf r.target.toList

/-- The line of a record. -/
def line (r : Record) : String :=
  r.level.label ++ " " ++ r.message

/-- The lines that the host receives for a record. -/
def lines (r : Record) : List String :=
  if r.isPassedOn then [r.line] else []

end Record

end PhoneVerification.Log
