import PhoneVerification.Cli.Arguments

/-!
# Help texts

What the command line prints about itself.
-/

namespace PhoneVerification.Cli.Help

/-- The name and version of the program. -/
def version : String := "phonekit 0.3.0\n"

/-- What a command does. -/
def purpose : CommandName → String
  | .run => "Verify a phone number interactively"
  | .link => "Resume from the link in a verification SMS"
  | .validate => "Check a phone number without contacting the backend"
  | .rateLimit => "Show the rate limit message for a `Retry-After` value"
  | .config => "Print the effective configuration as JSON"

/-- What the value of a command is. -/
def operandPurpose : CommandName → String
  | .run | .config => ""
  | .link => "The link, or just its `#!verify:<phone>:<code>` fragment"
  | .validate => "The number as a user would type it"
  | .rateLimit => "Seconds to wait"

/-- What a setting is. -/
def settingPurpose : Setting → String
  | .config => "JSON widget configuration file"
  | .apiBase => "Base URL of the verification API, e.g. `http://localhost:8080/api/`"
  | .issuanceServer => "Address of the issuance server"
  | .locale => "Language of messages and SMS (`en` or `nl`)"

/-- The kind of value of a setting. -/
def settingValue : Setting → String
  | .config => "path"
  | .apiBase | .issuanceServer => "url"
  | .locale => "LOCALE"

/-- Blanks. -/
def blanks (n : Nat) : List Char :=
  List.replicate n ' '

/-- A text whose further lines start below its first one, `column` places from the margin. -/
def hanging (column : Nat) (s : String) : List Char :=
  s.toList.flatMap fun c => if c == '\n' then c :: blanks column else [c]

/-- Lines of two columns, the second one aligned. -/
def columns (rows : List (String × String)) : String :=
  let width := (rows.map fun r => r.1.length).foldl max 0
  String.ofList <| rows.flatMap fun r =>
    blanks 2 ++ r.1.toList ++ blanks (width - r.1.length + 2) ++ hanging (width + 4) r.2 ++ ['\n']

/-- The row of a setting with the value it has in the environment. -/
def settingRow (env : String → Option String) (s : Setting) : String × String :=
  ("    --" ++ Named.name s ++ " <" ++ settingValue s ++ ">",
    settingPurpose s ++ " [env: " ++ s.variableName ++ "=" ++ (env s.variableName).getD "" ++ "]")

/-- All options. The version is told before a command only. -/
def options (env : String → Option String) (withVersion : Bool) : String :=
  columns <|
    (Named.all : List Setting).map (settingRow env) ++
      [("    --no-confirm", "Send the code without asking for confirmation"),
        ("-v, --verbose", "Log requests and step changes"),
        ("-h, --help", "Print help")] ++
      if withVersion then [("-V, --version", "Print version")] else []

/-- What a question for help is. -/
def helpPurpose : String := "Print this message or the help of the given subcommand(s)"

/-- The help on a topic. -/
def text (env : String → Option String) : Topic → String
  | .program =>
    "Phone number verification from the terminal\n\nUsage: phonekit [OPTIONS] <COMMAND>\n\n" ++
      "Commands:\n" ++
      columns ((Named.all : List CommandName).map (fun c => (Named.name c, purpose c)) ++
        [("help", helpPurpose)]) ++
      "\nOptions:\n" ++ options env true
  | .help =>
    helpPurpose ++ "\n\nUsage: phonekit help [COMMAND]...\n\nArguments:\n" ++
      columns [("[COMMAND]...", "Print help for the subcommand(s)")]
  | .command c =>
    let usage := purpose c ++ "\n\nUsage: phonekit " ++ Named.name c ++ " [OPTIONS]"
    match c.operand? with
    | none => usage ++ "\n\nOptions:\n" ++ options env false
    | some operand =>
      usage ++ " <" ++ operand ++ ">\n\nArguments:\n" ++
        columns [("<" ++ operand ++ ">", operandPurpose c)] ++ "\nOptions:\n" ++
        options env false

end PhoneVerification.Cli.Help
