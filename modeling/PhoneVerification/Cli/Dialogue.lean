import PhoneVerification.Cli.Settings
import PhoneVerification.Flow.Operation

/-!
# Dialogue on a terminal

A flow is driven by prompts, each answered by one line of the input, until its last step is
reached. Views are printed as they are published.
-/

namespace PhoneVerification.Cli

/-- A question to the user. -/
inductive Prompt
  | phone
  | confirm (number : String)
  | code
  deriving DecidableEq, Repr

namespace Prompt

/-- The question as it is printed. -/
def text : Prompt → String
  | phone => "Phone number: "
  | confirm number => "Send a code to " ++ number ++ "? [Y/n]: "
  | code => "Code from the SMS (empty to go back): "

/-- The question that a flow asks. At its last step there is none. -/
def of? (f : Flow) : Option Prompt :=
  match f.step with
  | .phone => some phone
  | .confirm => some (confirm ((f.phone.map PhoneNumber.e164).getD ""))
  | .token => some code
  | .done => none

end Prompt

/-- What happens in a dialogue. -/
inductive DialogueEvent
  | flow (e : Event)
  | prompt (p : Prompt)

namespace DialogueEvent

/-- The mark before a status. -/
def mark : Severity → String
  | .success => "[ok] "
  | .info => "[..] "
  | .warning => "[!!] "
  | .danger => "[xx] "

/-- A view on the terminal is the line of its status. -/
def viewText (v : View) : String :=
  match v.status with
  | some m => mark m.severity ++ m.body ++ "\n"
  | none => ""

/-- What an event prints. -/
def text : DialogueEvent → String
  | flow (.view _ v) => viewText v
  | flow (.effect (.presented pointer _)) =>
    "\nOpen this " ++ pointer.kind ++ " session in your wallet:\n  " ++ pointer.url ++ "\n\n"
  | flow (.effect (.log _)) | flow (.effect (.attempt _)) | flow (.exchange _) => ""
  | prompt p => p.text

end DialogueEvent

/-- The observer of a dialogue. -/
def terminal : String := "terminal"

/-- The lines of an input. A last line need not be ended. -/
def linesOf (input : String) : List String :=
  let lines := input.toList.splitOn '\n'
  (if lines.getLast? == some [] then lines.dropLast else lines).map String.ofList

namespace Dialogue

/-- An action in a dialogue. -/
abbrev Act (σ α : Type) : Type := Action DialogueEvent (Flow.World σ) α

variable {σ α : Type}

/-- Acts on the flow. -/
def inFlow (x : Flow.Act σ α) : Act σ α :=
  x.mapEvents .flow

/-- Carries out what a line means as an answer to a prompt. -/
def answer (s : Services σ) (p : Prompt) (line : String) : Flow.Act σ (Except Fault Unit) := do
  let line := Text.trim line
  match p with
  | .phone => Flow.submitPhone s line
  | .confirm _ =>
    if Text.sameAscii line "n" then
      let _ ← Flow.back
      return .ok ()
    else Flow.confirm s
  | .code =>
    if line.isEmpty then
      let _ ← Flow.back
      return .ok ()
    else Flow.submitCode s line

/-- Asks the question of the flow, if there is one. -/
def ask : Act σ (Option Prompt) := do
  let f ← inFlow Flow.Act.current
  match Prompt.of? f with
  | none => return none
  | some p =>
    Action.emit (.prompt p)
    return some p

/-- Asks and answers until there is no further question or no further line. -/
def drive (s : Services σ) : List String → Act σ (Except Failure Unit)
  | [] => do
    match ← ask with
    | none => return .ok ()
    | some _ => return .error .inputClosed
  | line :: rest => do
    match ← ask with
    | none => return .ok ()
    | some p =>
      match ← inFlow (answer s p line) with
      | .error fault => return .error (.refused fault)
      | .ok () => drive s rest

/-- Starts a flow that is shown on the terminal. -/
def start : Flow.Act σ Unit := do
  Flow.begin
  Flow.observe terminal

/-- Opens the dialogue from the first step, or from a link. -/
def openAt (s : Services σ) (link : Option String) : Flow.Act σ (Except Failure Unit) := do
  start
  match link with
  | none =>
    Flow.Act.publish
    return .ok ()
  | some text =>
    match ← Flow.openLink s text with
    | .error fault => return .error (.refused fault)
    | .ok true => return .ok ()
    | .ok false => return .error (.notALink text)

/-- The whole dialogue over the lines of an input. -/
def converse (s : Services σ) (link : Option String) (lines : List String) :
    Act σ (Except Failure Unit) := do
  match ← inFlow (openAt s link) with
  | .error failure => return .error failure
  | .ok () => drive s lines

end Dialogue

end PhoneVerification.Cli
