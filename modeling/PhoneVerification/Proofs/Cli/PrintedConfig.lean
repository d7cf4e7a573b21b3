import PhoneVerification.Cli.Program
import PhoneVerification.Proofs.Cli.GivenSettings
import PhoneVerification.Proofs.Config.Checked
import PhoneVerification.Proofs.Config.Written

/-!
# The printed configuration

The command that prints the configuration prints a text that can be stored in a file. The program
reads the same configuration from that file and prints it again.
-/

namespace PhoneVerification

namespace Config

theorem ofText_of_decode? {c : Config} {s : String} (hread : Wire.decode? s = some c)
    (hsound : c.validate = .ok c) : ofText s = .ok c :=
  ofText_eq_ok_iff.mpr ⟨hread, hsound⟩

/-- A sound configuration is read from its pretty text, also with spaces after it. -/
theorem ofText_prettyText {c : Config} (hsound : c.validate = .ok c) {after : List Char}
    (hafter : Json.Spaces after) : ofText (c.prettyText ++ String.ofList after) = .ok c :=
  ofText_of_decode? (c.decode?_prettyText hafter) hsound

end Config

namespace Cli

namespace Invocation

/-- That the configuration of a file is to be printed as it is. -/
structure PrintsFile (inv : Invocation) (path : String) : Prop where
  configPath : inv.configPath = some path
  apiBase : inv.apiBase = none
  issuanceServer : inv.issuanceServer = none
  locale : inv.locale = none
  noConfirm : inv.noConfirm = false
  command : inv.command = .config

variable {inv : Invocation} {files : Files} {c : Config} {path : String}

theorem PrintsFile.override_eq (h : inv.PrintsFile path) (c : Config) : inv.override c = c := by
  simp [override, h.apiBase, h.issuanceServer, h.locale, h.noConfirm]

/-- A command runs with what the file says and the command line puts on top, if that is sound. -/
theorem loadConfig_eq_ok_iff :
    inv.loadConfig files = .ok c ↔
      ∃ base, inv.baseConfig files = .ok base ∧ inv.override base = c ∧ c.issue? = none := by
  simp only [loadConfig, bind_eq_ok_iff, mapError_eq_ok_iff, Config.validate_eq_ok_iff]
  constructor
  · rintro ⟨base, hbase, rfl, hsound⟩
    exact ⟨base, hbase, rfl, hsound⟩
  · rintro ⟨base, hbase, rfl, hsound⟩
    exact ⟨base, hbase, rfl, hsound⟩

/-- A file with a sound configuration is loaded as that configuration. -/
theorem PrintsFile.loadConfig_eq {s : String} (h : inv.PrintsFile path) (hfile : files path = .ok s)
    (hread : Config.ofText s = .ok c) (hsound : c.issue? = none) :
    inv.loadConfig files = .ok c := by
  have hbase : inv.baseConfig files = .ok c := by
    simp [baseConfig, h.configPath, hfile, hread, Except.mapError]
  exact loadConfig_eq_ok_iff.mpr ⟨c, hbase, h.override_eq c, hsound⟩

end Invocation

variable {σ : Type}

/-- The command that prints the configuration prints it as it is loaded. -/
theorem program_eq_of_config {inv : Invocation} {env : String → Option String}
    {args : List String} (hread : Invocation.read env args = .ok inv)
    (hcommand : inv.command = .config) (net : Http.Network σ) (world : σ) (files : Files)
    (input : String) :
    program net world env files input args =
      match inv.loadConfig files with
      | .error f => .ofFailure f
      | .ok c => ⟨c.prettyText ++ "\n", .success⟩ := by
  unfold program
  rw [hread]
  cases hload : inv.loadConfig files with
  | error f => simp [hload]
  | ok c => simp [hload, hcommand, Command.task]

/-! ## Arguments that lead to a file -/

/-- The invocation that prints the configuration of a file, with nothing else given. -/
def Invocation.printing (path : String) : Invocation where
  configPath := some path
  apiBase := none
  issuanceServer := none
  locale := none
  noConfirm := false
  verbose := false
  command := .config

theorem Invocation.printsFile_printing (path : String) : (printing path).PrintsFile path where
  configPath := rfl
  apiBase := rfl
  issuanceServer := rfl
  locale := rfl
  noConfirm := rfl
  command := rfl

theorem wordOf_configFile (path : String) :
    Word.of ("--config=" ++ path) = .long "config" (some path) := by
  have hchars : ("--config=" ++ path).toList =
      '-' :: '-' :: 'c' :: 'o' :: 'n' :: 'f' :: 'i' :: 'g' :: '=' :: path.toList := by
    rw [String.toList_append]
    rfl
  rw [Word.of, hchars]
  simp [List.takeWhile, List.dropWhile]

theorem wordOf_plain {s : String} (h : s.toList.head? ≠ some '-') : Word.of s = .plain s := by
  unfold Word.of
  split
  next hs => simp [hs] at h
  next hs => simp [hs] at h
  next hs => simp [hs] at h
  next => rfl

namespace Reading

variable {path : String} {env : String → Option String}

theorem addSetting_config (hpath : path ≠ "") :
    Given.addSetting {} .config path = .ok { settings := [(.config, path)] } := by
  simp [Given.addSetting, Setting.accepts, hpath]

/-- A file before the command is all that is given, whether its name has been checked yet or not. -/
theorem finish_eq_printing (henv : ∀ s : Setting, env s.variableName = none) {given : Given}
    (hgiven : given.settle = .ok { settings := [(.config, path)] }) :
    finish { before := given, command := some .config } env = .ok (.printing path) := by
  have hafter : Given.settle {} = .ok {} := rfl
  simp only [finish, hafter, hgiven, bind, Except.bind, setting_eq henv]
  rfl

end Reading

/-- The arguments that lead to a file, with the name in one word with the option. -/
theorem read_configFile {path : String} (hpath : path ≠ "") {env : String → Option String}
    (henv : ∀ s : Setting, env s.variableName = none) :
    Invocation.read env ["--config=" ++ path, "config"] = .ok (.printing path) := by
  have hadd := Reading.addSetting_config hpath
  have hsetting : (Named.ofName? "config" : Option Setting) = some .config := rfl
  have hfile : Reading.next {} ("--config=" ++ path) =
      .ok { before := { settings := [(.config, path)] } } := by
    simp only [Reading.next, wordOf_configFile, Reading.long, hsetting]
    change Except.map _ (Given.addSetting {} .config path) = _
    rw [hadd]
    rfl
  have hread : ["--config=" ++ path, "config"].foldlM Reading.next {} =
      .ok { before := { settings := [(.config, path)] }, command := some .config } := by
    rw [List.foldlM_cons, hfile]
    rfl
  have hsettled : Given.settle { settings := [(.config, path)] } =
      .ok { settings := [(.config, path)] } := rfl
  rw [Invocation.read, hread]
  exact Reading.finish_eq_printing henv hsettled

/-- The arguments that lead to a file, with the name in a word of its own. -/
theorem read_config_file {path : String} (hpath : path ≠ "") (hdash : path.toList.head? ≠ some '-')
    {env : String → Option String} (henv : ∀ s : Setting, env s.variableName = none) :
    Invocation.read env ["--config", path, "config"] = .ok (.printing path) := by
  have hoption : Reading.next {} "--config" = .ok { before := { pending := some (.config, none) } } :=
    rfl
  have hfile : Reading.next { before := { pending := some (.config, none) } } path =
      .ok { before := { pending := some (.config, some path) } } := by
    simp only [Reading.next, wordOf_plain hdash]
    rfl
  have hread : ["--config", path, "config"].foldlM Reading.next {} =
      .ok { before := { pending := some (.config, some path) }, command := some .config } := by
    rw [List.foldlM_cons, hoption]
    change ["config"].foldlM Reading.next =<< Reading.next _ path = _
    rw [hfile]
    rfl
  rw [Invocation.read, hread]
  exact Reading.finish_eq_printing henv (Reading.addSetting_config hpath)

/-- A sound configuration is read back from its compact and from its pretty text. What the program
prints as its configuration, stored in a file, is printed again by every call that asks for the
configuration of that file and gives nothing else, and there are arguments for such a call. -/
theorem printed_config_reads_back :
    (∀ c : Config, c.validate = .ok c →
      Config.ofText (Wire.encode c) = .ok c ∧ Config.ofText c.prettyText = .ok c) ∧
    (∀ {σ : Type} (net : Http.Network σ) (world : σ) (env : String → Option String) (files : Files)
        (input : String) (args : List String) (inv : Invocation) (output : String),
      Invocation.read env args = .ok inv → inv.command = .config →
      program net world env files input args = ⟨output, .success⟩ →
      ∀ {σ' : Type} (net' : Http.Network σ') (world' : σ') (env' : String → Option String)
          (files' : Files) (input' : String) (args' : List String) (inv' : Invocation)
          (path : String),
        Invocation.read env' args' = .ok inv' → inv'.PrintsFile path → files' path = .ok output →
        program net' world' env' files' input' args' = ⟨output, .success⟩) ∧
    (∀ (env : String → Option String) (path : String),
      (∀ s : Setting, env s.variableName = none) → path ≠ "" →
      (Invocation.printing path).PrintsFile path ∧
        Invocation.read env ["--config=" ++ path, "config"] = .ok (.printing path) ∧
        (path.toList.head? ≠ some '-' →
          Invocation.read env ["--config", path, "config"] = .ok (.printing path))) := by
  refine ⟨fun c hsound => ?_, ?_, fun env path henv hpath => ?_⟩
  · have hpretty := Config.ofText_prettyText hsound Json.spaces_nil
    rw [String.ofList_nil, String.append_empty] at hpretty
    exact ⟨Config.ofText_of_decode? c.decode?_encode hsound, hpretty⟩
  · intro σ net world env files input args inv output hread hcommand hrun σ' net' world' env' files'
      input' args' inv' path hread' hprints hfile
    rw [program_eq_of_config hread hcommand] at hrun
    cases hload : inv.loadConfig files with
    | error f => simp [hload, Report.ofFailure] at hrun
    | ok c =>
        obtain rfl : c.prettyText ++ "\n" = output := by simpa [hload] using hrun
        obtain ⟨-, -, -, hissue⟩ := Invocation.loadConfig_eq_ok_iff.mp hload
        have hsound : c.validate = .ok c := Config.validate_eq_ok_iff.mpr ⟨rfl, hissue⟩
        have hline : Json.Spaces ['\n'] := by simp [Json.Spaces, Json.isSpace]
        have hreads := Config.ofText_prettyText hsound hline
        rw [program_eq_of_config hread' hprints.command, hprints.loadConfig_eq hfile hreads hissue]
  · exact ⟨Invocation.printsFile_printing path, read_configFile hpath henv,
      fun hdash => read_config_file hpath hdash henv⟩

/-- A configuration whose texts have to be escaped, with the largest numbers. -/
def escapedConfig : Config where
  apiBase := "https://sms.example/\"a\\b\"\n"
  sendEndpoint := ""
  phoneUtilsPath := "\t\x01é"
  locale := .nl
  allowedRegions := ["NL", "nl"]
  sessionPollIntervalMs := 18446744073709551615
  sessionPollMax := 4294967295

theorem printed_config_reads_back_escaped :
    escapedConfig.validate = .ok escapedConfig ∧
      Config.ofText (Wire.encode escapedConfig) = .ok escapedConfig ∧
      program Http.Network.dead () (fun _ => none)
        (fun _ => .ok (Wire.encode escapedConfig)) "" ["--config=a.json", "config"] =
          ⟨escapedConfig.prettyText ++ "\n", .success⟩ ∧
      program Http.Network.dead () (fun _ => none)
        (fun _ => .ok (escapedConfig.prettyText ++ "\n")) "" ["--config", "b.json", "config"] =
          ⟨escapedConfig.prettyText ++ "\n", .success⟩ := by
  obtain ⟨hreads, hprintsAgain, harguments⟩ := printed_config_reads_back
  have hissue : escapedConfig.issue? = none := by decide
  have hsound : escapedConfig.validate = .ok escapedConfig :=
    Config.validate_eq_ok_iff.mpr ⟨rfl, hissue⟩
  have hcompact := (hreads escapedConfig hsound).1
  obtain ⟨hfirst, hread, -⟩ := harguments (fun _ => none) "a.json" (fun _ => rfl) (by decide)
  obtain ⟨hsecond, -, hread'⟩ := harguments (fun _ => none) "b.json" (fun _ => rfl) (by decide)
  have hload : (Invocation.printing "a.json").loadConfig
      (fun _ => .ok (Wire.encode escapedConfig)) = .ok escapedConfig :=
    hfirst.loadConfig_eq rfl hcompact hissue
  have hword : "--config=" ++ "a.json" = "--config=a.json" := rfl
  rw [hword] at hread
  have hrun : program Http.Network.dead () (fun _ => none)
      (fun _ => .ok (Wire.encode escapedConfig)) "" ["--config=a.json", "config"] =
        ⟨escapedConfig.prettyText ++ "\n", .success⟩ := by
    rw [program_eq_of_config hread rfl, hload]
  exact ⟨hsound, hcompact, hrun, hprintsAgain _ _ _ _ _ _ _ _ hread rfl hrun _ _ _ _ _ _ _ _
    (hread' (by decide)) hsecond rfl⟩

end Cli

end PhoneVerification
