import PhoneVerification.Cli.Program

/-!
# Command line

Reads the arguments, the environment, the configuration file and the lines of the input, and
prints what the program says. No network is connected, so no request is ever answered.
-/

namespace PhoneVerification.Cli

/-- The variables of the environment that the settings are looked up in. -/
def environment : IO (String → Option String) := do
  let values ← (Named.all : List Setting).mapM fun s => do
    return (s.variableName, ← IO.getEnv s.variableName)
  return fun name => (values.lookup name).join

/-- The content of a file, or why it cannot be read. -/
def fileContent (path : String) : IO (Except FileError String) := do
  match ← (IO.FS.readFile path).toBaseIO with
  | .ok content => return .ok content
  | .error (.noFileOrDirectory ..) => return .error .missing
  | .error e => return .error (.other (toString e))

/-- Prints what happened in a dialogue, and the log if it is asked for. -/
def printEvents (verbose : Bool) (events : List DialogueEvent) : IO Unit := do
  for e in events do
    IO.print e.text
    match verbose, e with
    | true, .flow (.effect (.log record)) => record.lines.forM IO.eprintln
    | _, _ => pure ()
  (← IO.getStdout).flush

/-- Asks the questions of a flow until there is no further one. -/
partial def lead (verbose : Bool) (s : Services Unit) (w : Flow.World Unit) :
    IO (Except Failure Unit) := do
  let asked := Dialogue.ask.run w
  printEvents verbose asked.events
  match asked.value with
  | none => return .ok ()
  | some p =>
    let line ← (← IO.getStdin).getLine
    if line.isEmpty then return .error .inputClosed
    let answered := (Dialogue.inFlow (Dialogue.answer s p line)).run asked.world
    printEvents verbose answered.events
    match answered.value with
    | .error fault => return .error (.refused fault)
    | .ok () => lead verbose s answered.world

/-- Prints how the program ended. -/
def conclude (ending : Ending) : IO UInt32 := do
  match ending with
  | .success => pure ()
  | .usage => IO.eprintln "For more information, try '--help'."
  | .failure f => IO.eprintln f.report
  return ending.exitCode

/-- Leads the dialogue of a configuration. -/
def converse (verbose : Bool) (c : Config) (link : Option String) : IO UInt32 := do
  let s := Services.ofConfig c Http.Network.dead
  let opened := (Dialogue.inFlow (Dialogue.openAt s link)).run ⟨Flow.start c, ()⟩
  printEvents verbose opened.events
  match opened.value with
  | .error f => conclude (.failure f)
  | .ok () =>
    match ← lead verbose s opened.world with
    | .error f => conclude (.failure f)
    | .ok () => conclude .success

/-- Carries out a command. -/
def carryOut (inv : Invocation) : IO UInt32 := do
  let content ← match inv.configPath with
    | some path => fileContent path
    | none => pure (.ok "")
  match inv.loadConfig fun _ => content with
  | .error f => conclude (.failure f)
  | .ok c =>
    match inv.command.task c with
    | .print line =>
      IO.println line
      conclude .success
    | .converse link => converse inv.verbose c link

end PhoneVerification.Cli

/-- Runs the command line program. -/
def main (args : List String) : IO UInt32 := do
  let env ← PhoneVerification.Cli.environment
  match PhoneVerification.Cli.Invocation.read env args with
  | .ok inv => PhoneVerification.Cli.carryOut inv
  | .error halt =>
    let report := PhoneVerification.Cli.Report.ofHalt env halt
    IO.print report.output
    PhoneVerification.Cli.conclude report.ending
