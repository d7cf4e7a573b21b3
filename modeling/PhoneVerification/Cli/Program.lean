import PhoneVerification.Cli.Dialogue
import PhoneVerification.Cli.Help
import PhoneVerification.Text.PlainOutput

/-!
# The command line program

What the program prints for its arguments, its environment, its files and its input, and how it
ends.
-/

namespace PhoneVerification.Cli

/-- How the program ends. -/
inductive Ending
  | success
  | usage
  | failure (f : Failure)
  deriving DecidableEq, Repr

/-- The code that the program exits with. -/
def Ending.exitCode : Ending → UInt32
  | success => 0
  | failure _ => 1
  | usage => 2

/-- What was printed, and how the program ended. -/
structure Report where
  output : String
  ending : Ending
  deriving DecidableEq, Repr

namespace Report

/-- A report without a command being carried out. Of the environment, which a help text tells, only
plain text is printed. -/
def ofHalt (env : String → Option String) : Halt → Report
  | .usage => ⟨"", .usage⟩
  | .version => ⟨Help.version, .success⟩
  | .help topic => ⟨Text.PlainOutput.ofText (Help.text env topic), .success⟩

/-- The report of a failure before anything was printed. -/
def ofFailure (f : Failure) : Report :=
  ⟨"", .failure f⟩

/-- The report of a dialogue. -/
def ofDialogue {ω : Type} (o : Outcome DialogueEvent ω (Except Failure Unit)) : Report where
  output := String.join (o.events.map DialogueEvent.text)
  ending := match o.value with
    | .ok () => .success
    | .error f => .failure f

end Report

/-- The line about a phone number. -/
def numberLine (c : Config) (number : String) : String :=
  match (NumberValidator.ofConfig c).validate number with
  | .ok phone => phone.e164 ++ " (" ++ phone.region.getD "unknown region" ++ ")"
  | .error rejection => rejection.text ++ ": " ++ Message.text c.locale rejection.messageKey

/-- What a command has to do: print a line, or lead a dialogue from the first step or a link. -/
inductive Task
  | print (line : String)
  | converse (link : Option String)

/-- The task of a command. -/
def Command.task (c : Config) : Command → Task
  | run => .converse none
  | link text => .converse (some text)
  | validate number => .print (numberLine c number)
  | rateLimit seconds => .print (Message.rateLimited c.locale (some ⟨seconds⟩))
  | config => .print c.prettyText

/-- Runs the program over a network. -/
def program {σ : Type} (net : Http.Network σ) (world : σ) (env : String → Option String)
    (files : Files) (input : String) (args : List String) : Report :=
  match Invocation.read env args with
  | .error halt => .ofHalt env halt
  | .ok inv =>
    match inv.loadConfig files with
    | .error f => .ofFailure f
    | .ok c =>
      match inv.command.task c with
      | .print line => ⟨line ++ "\n", .success⟩
      | .converse link =>
        .ofDialogue ((Dialogue.converse (Services.ofConfig c net) link (linesOf input)).run
          ⟨Flow.start c, world⟩)

end PhoneVerification.Cli
