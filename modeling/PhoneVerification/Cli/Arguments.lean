import PhoneVerification.Locale
import PhoneVerification.Named
import PhoneVerification.RetryWindow

/-!
# Command line arguments

Settings and switches may stand before the command and after it, once in each place. A setting
that is missing in a place is looked up in the environment; of the two places the later one wins.
A value that is a word of its own is checked when the next option of its place follows, or at the
end, so that a question for help may be answered first.
-/

namespace PhoneVerification.Cli

/-- A setting, which takes a value. -/
inductive Setting
  | config
  | apiBase
  | issuanceServer
  | locale
  deriving DecidableEq, Repr

namespace Setting

instance : Named Setting where
  all := [config, apiBase, issuanceServer, locale]
  name
    | config => "config"
    | apiBase => "api-base"
    | issuanceServer => "issuance-server"
    | locale => "locale"
  mem_all := by intro a; cases a <;> decide
  find_name := by intro a; cases a <;> rfl

/-- The variable of the environment that stands for a setting. -/
def variableName : Setting → String
  | config => "PHONEKIT_CONFIG"
  | apiBase => "PHONEKIT_API_BASE"
  | issuanceServer => "PHONEKIT_ISSUANCE_SERVER"
  | locale => "PHONEKIT_LOCALE"

/-- Whether a setting can have a value. -/
def accepts : Setting → String → Bool
  | config, value => !value.isEmpty
  | apiBase, _ | issuanceServer, _ => true
  | locale, value => (Locale.ofCode? value).isSome

end Setting

/-- A switch, which is given or not. -/
inductive Switch
  | noConfirm
  | verbose
  deriving DecidableEq, Repr

namespace Switch

instance : Named Switch where
  all := [noConfirm, verbose]
  name
    | noConfirm => "no-confirm"
    | verbose => "verbose"
  mem_all := by intro a; cases a <;> decide
  find_name := by intro a; cases a <;> rfl

end Switch

/-- The names of the commands. -/
inductive CommandName
  | run
  | link
  | validate
  | rateLimit
  | config
  deriving DecidableEq, Repr

namespace CommandName

instance : Named CommandName where
  all := [run, link, validate, rateLimit, config]
  name
    | run => "run"
    | link => "link"
    | validate => "validate"
    | rateLimit => "rate-limit"
    | config => "config"
  mem_all := by intro a; cases a <;> decide
  find_name := by intro a; cases a <;> rfl

/-- The name of the value that a command takes. -/
def operand? : CommandName → Option String
  | run | config => none
  | link => some "LINK"
  | validate => some "NUMBER"
  | rateLimit => some "SECONDS"

end CommandName

/-- A command with its value. -/
inductive Command
  | run
  | link (text : String)
  | validate (number : String)
  | rateLimit (seconds : UInt64)
  | config
  deriving DecidableEq, Repr

/-- The command of a name and the value given with it. -/
def Command.of? : CommandName → Option String → Option Command
  | .run, none => some run
  | .link, some text => some (link text)
  | .validate, some number => some (validate number)
  | .rateLimit, some seconds =>
    (Text.boundedDecimal? UInt64.size seconds).map fun n => rateLimit (UInt64.ofNat n)
  | .config, none => some config
  | _, _ => none

/-- What help is asked for. -/
inductive Topic
  | program
  | command (name : CommandName)
  | help
  deriving DecidableEq, Repr

/-- The topic of an option for help after a command, or without one. -/
def Topic.ofCommand? : Option CommandName → Topic
  | some name => command name
  | none => program

/-- Why nothing is carried out. -/
inductive Halt
  | usage
  | version
  | help (topic : Topic)
  deriving DecidableEq, Repr

/-- What is asked for. -/
structure Invocation where
  configPath : Option String
  apiBase : Option String
  issuanceServer : Option String
  locale : Option Locale
  noConfirm : Bool
  verbose : Bool
  command : Command
  deriving DecidableEq, Repr

/-- The settings and switches given in one place, and a setting that is still to be added, with its
value if that has been read. -/
structure Given where
  settings : List (Setting × String) := []
  switches : List Switch := []
  pending : Option (Setting × Option String) := none

namespace Given

/-- Adds a setting. It has to be new, with a value it can have. -/
def addSetting (g : Given) (s : Setting) (value : String) : Except Halt Given :=
  if (g.settings.lookup s).isSome || !s.accepts value then .error .usage
  else .ok { g with settings := g.settings ++ [(s, value)] }

/-- Adds a switch. It has to be new. -/
def addSwitch (g : Given) (s : Switch) : Except Halt Given :=
  if g.switches.contains s then .error .usage else .ok { g with switches := g.switches ++ [s] }

/-- Adds the setting that is still to be added. It has to have a value by now. -/
def settle (g : Given) : Except Halt Given :=
  match g.pending with
  | none => .ok g
  | some (_, none) => .error .usage
  | some (s, some value) => { g with pending := none }.addSetting s value

/-- The setting whose value comes next. -/
def awaited? (g : Given) : Option Setting :=
  match g.pending with
  | some (s, none) => some s
  | _ => none

end Given

/-- How a single argument looks. -/
inductive Word
  | escape
  | long (name : String) (value : Option String)
  | short (letters : List Char)
  | plain (text : String)

/-- Tells names of options from other words. A single dash is an ordinary word. -/
def Word.of (s : String) : Word :=
  match s.toList with
  | ['-', '-'] => escape
  | '-' :: '-' :: rest =>
    match rest.span (· != '=') with
    | (name, _ :: value) => long (String.ofList name) (some (String.ofList value))
    | (name, []) => long (String.ofList name) none
  | '-' :: c :: rest => short (c :: rest)
  | _ => plain s

/-- What has been read of the arguments: the options before and after the command, the command with
its value, whether only values may follow, and the topic of a question for help. -/
structure Reading where
  before : Given := {}
  after : Given := {}
  command : Option CommandName := none
  operand : Option String := none
  onlyValues : Bool := false
  topic : Option Topic := none

namespace Reading

/-- The options of the place that is being read. -/
def given (r : Reading) : Given :=
  if r.command.isSome then r.after else r.before

/-- Replaces the options of the place that is being read. -/
def withGiven (r : Reading) (g : Given) : Reading :=
  if r.command.isSome then { r with after := g } else { r with before := g }

/-- Whether the value of the command, if it has been read, is one that the command can have. -/
def hasProperOperand (r : Reading) : Bool :=
  match r.command, r.operand with
  | some name, some operand => (Command.of? name (some operand)).isSome
  | _, _ => true

/-- Checks what has been read in this place so far. -/
def settle (r : Reading) : Except Halt Reading :=
  if r.hasProperOperand then r.given.settle.map r.withGiven else .error .usage

/-- Adds an option of this place. -/
def add (r : Reading) (f : Given → Except Halt Given) : Except Halt Reading := do
  let r ← r.settle
  (f r.given).map r.withGiven

/-- Answers a question instead of carrying out a command. -/
def stop (r : Reading) (halt : Halt) : Except Halt Reading := do
  let _ ← r.settle
  .error halt

/-- Reads an option that is written out. -/
def long (r : Reading) (name : String) (value : Option String) : Except Halt Reading :=
  match (Named.ofName? name : Option Setting), (Named.ofName? name : Option Switch), value with
  | some s, _, some value => r.add fun g => g.addSetting s value
  | some s, _, none => r.add fun g => .ok { g with pending := some (s, none) }
  | none, some s, none => r.add fun g => g.addSwitch s
  | none, some _, some _ => .error .usage
  | none, none, some _ => .error .usage
  | none, none, none =>
    if name = "help" then r.stop (.help (.ofCommand? r.command))
    else if name = "version" && r.command.isNone then r.stop .version
    else .error .usage

/-- Reads an option of one letter. -/
def short (r : Reading) (letter : Char) : Except Halt Reading :=
  if letter = 'v' then r.add fun g => g.addSwitch .verbose
  else if letter = 'h' then r.stop (.help (.ofCommand? r.command))
  else if letter = 'V' && r.command.isNone then r.stop .version
  else .error .usage

/-- Reads the value of a command. -/
def value (r : Reading) (s : String) : Except Halt Reading := do
  let r ← r.settle
  match r.command.bind CommandName.operand?, r.operand with
  | some _, none => .ok { r with operand := some s }
  | _, _ => .error .usage

/-- Reads a word that is no option: the value of a setting, a command or its value. -/
def plain (r : Reading) (s : String) : Except Halt Reading :=
  match r.given.awaited?, r.command with
  | some setting, _ => .ok (r.withGiven { r.given with pending := some (setting, some s) })
  | none, some _ => r.value s
  | none, none =>
    match (Named.ofName? s : Option CommandName) with
    | some name => .ok { r with command := some name }
    | none => if s = "help" then .ok { r with topic := some .program } else .error .usage

/-- Reads a word of a question for help: the name of one command, or of help itself. -/
def ask (r : Reading) (topic : Topic) (s : String) : Except Halt Reading :=
  match topic, (Named.ofName? s : Option CommandName) with
  | .program, some name => .ok { r with topic := some (.command name) }
  | .program, none => if s = "help" then .ok { r with topic := some .help } else .error .usage
  | _, _ => .error .usage

/-- Reads one argument. -/
def next (r : Reading) (s : String) : Except Halt Reading :=
  match r.topic with
  | some topic => r.ask topic s
  | none =>
    if r.onlyValues then r.value s
    else
      match Word.of s with
      | .plain text => r.plain text
      | .escape => .ok { r with onlyValues := true }
      | .long name value => r.long name value
      | .short letters => letters.foldlM short r

/-- The value of a setting that is not given in a place. -/
def ofEnvironment (env : String → Option String) (s : Setting) : Except Halt (Option String) :=
  match env s.variableName with
  | none => .ok none
  | some value => if s.accepts value then .ok (some value) else .error .usage

/-- The value of a setting. The environment is asked unless both places have a value. -/
def setting (r : Reading) (env : String → Option String) (s : Setting) :
    Except Halt (Option String) :=
  match r.after.settings.lookup s, r.before.settings.lookup s with
  | some value, some _ => .ok (some value)
  | later, earlier => do
    let fallback ← ofEnvironment env s
    .ok (later <|> earlier <|> fallback)

/-- Whether a switch is given. -/
def switch (r : Reading) (s : Switch) : Bool :=
  r.before.switches.contains s || r.after.switches.contains s

/-- The command with its value. -/
def carriedOut (r : Reading) : Except Halt Command :=
  match r.command.bind fun name => Command.of? name r.operand with
  | some command => .ok command
  | none => .error .usage

/-- What is asked for, once all arguments are read. -/
def finish (r : Reading) (env : String → Option String) : Except Halt Invocation :=
  match r.topic with
  | some topic => .error (.help topic)
  | none => do
    let r := { r with after := ← r.after.settle, before := ← r.before.settle }
    let command ← r.carriedOut
    let configPath ← r.setting env .config
    let apiBase ← r.setting env .apiBase
    let issuanceServer ← r.setting env .issuanceServer
    let locale ← r.setting env .locale
    .ok {
      configPath, apiBase, issuanceServer, command
      locale := locale.bind Locale.ofCode?
      noConfirm := r.switch .noConfirm
      verbose := r.switch .verbose }

end Reading

/-- What the arguments ask for in an environment. -/
def Invocation.read (env : String → Option String) (args : List String) :
    Except Halt Invocation := do
  let r ← args.foldlM Reading.next {}
  r.finish env

end PhoneVerification.Cli
