import PhoneVerification.Proofs.Cli.Conversation
import PhoneVerification.Proofs.Cli.GivenSettings
import PhoneVerification.Proofs.Cli.PrintedConfig
import PhoneVerification.Proofs.Config.Fields

/-!
# Loaded configurations

The configuration of a command has layers: what the arguments give, what the environment gives, what a
file gives, and the standard values. A file gives something only if it would be accepted by itself
(`Supplies`). The layers settle every field (`Layered`), and the configuration that they settle is loaded
if it passes the check; without it no command is carried out.
-/

namespace PhoneVerification

namespace Config

/-- With two layers above it, a field that is taken from what is given has the first value of these
three, or the standard one. -/
theorem getD_of_withDefault {α : Type} {standard value : α} {read? : Json → Option α}
    {given : Option Json} (h : Json.withDefault standard read? given = some value)
    (first second : Option α) :
    (first <|> second).getD value = (first <|> second <|> given.bind read?).getD standard := by
  have hlast : value = (given.bind read?).getD standard := by
    cases given with
    | none => exact (Option.some.inj h).symm
    | some v =>
        rw [Json.withDefault] at h
        rw [Option.bind_some, h, Option.getD_some]
  cases first with
  | some a => rfl
  | none =>
      cases second with
      | some a => rfl
      | none => exact hlast

end Config

namespace Cli

/-- What the file at a path gives for each field. It has to be readable and to be accepted by itself.
Without a path nothing is given. -/
inductive Supplies (files : Files) : Option String → (Config.Field → Option Json) → Prop
  | nothing : Supplies files none fun _ => none
  | file {path content : String} {v : Json} {base : Config} {given : Config.Field → Option Json}
      (hcontent : files path = .ok content) (hv : Json.parse? content = some v)
      (hgiven : v.asRecord? Config.fieldNames false =
        some ((Named.all : List Config.Field).map given))
      (haccepted : Config.ofText content = .ok base) : Supplies files (some path) given

/-- Where each field of a configuration comes from: the arguments come first, then the environment,
then the file, and the standard values last. -/
structure Layered (flags : Invocation) (env : String → Option String)
    (given : Config.Field → Option Json) (c : Config) : Prop where
  apiBase : c.apiBase =
    (flags.apiBase <|> env "PHONEKIT_API_BASE" <|> (given .apiBase).bind Json.asText?).getD
      ({} : Config).apiBase
  issuanceServer : c.issuanceServer =
    (flags.issuanceServer <|> env "PHONEKIT_ISSUANCE_SERVER" <|>
      (given .issuanceServer).bind Json.asText?).getD ({} : Config).issuanceServer
  locale : c.locale =
    (flags.locale <|> (env "PHONEKIT_LOCALE").bind Locale.ofCode? <|>
      (given .locale).bind Json.asNamed?).getD ({} : Config).locale
  unconfirmed : flags.noConfirm = true → c.confirmStep = false
  confirmed : flags.noConfirm = false → c.Takes (given .confirmStep) .confirmStep
  rest : ∀ f, f ∉ [Config.Field.apiBase, .issuanceServer, .locale, .confirmStep] →
    c.Takes (given f) f

section Layers

variable {flags inv : Invocation} {env : String → Option String} {files : Files}
  {given : Config.Field → Option Json} {base c d : Config}

/-- What is put on top of a configuration leaves what is given below it where it does not reach. -/
theorem layered_override (hbase : ∀ f, base.Takes (given f) f) :
    Layered flags env given ((flags.inEnvironment env).override base) where
  apiBase := Config.getD_of_withDefault (hbase .apiBase) _ _
  issuanceServer := Config.getD_of_withDefault (hbase .issuanceServer) _ _
  locale := Config.getD_of_withDefault (hbase .locale) _ _
  unconfirmed := by
    intro hflag
    simp [Invocation.override, Invocation.inEnvironment, hflag]
  confirmed := by
    intro hflag
    have hconfirm : ((flags.inEnvironment env).override base).confirmStep = base.confirmStep := by
      simp [Invocation.override, Invocation.inEnvironment, hflag]
    rw [Config.Takes, hconfirm]
    exact hbase .confirmStep
  rest := by
    intro f hf
    have htakes := hbase f
    cases f
    case apiBase | issuanceServer | locale | confirmStep => simp at hf
    all_goals exact htakes

/-- The layers settle a configuration. -/
theorem Layered.eq (hc : Layered flags env given c) (hd : Layered flags env given d) : c = d := by
  apply Config.eq_of_form_eq
  intro f
  -- the layers above the file reach four fields only
  by_cases hf : f ∈ [Config.Field.apiBase, .issuanceServer, .locale, .confirmStep]
  · simp only [List.mem_cons, List.not_mem_nil, or_false] at hf
    obtain rfl | rfl | rfl | rfl := hf
    · rw [Config.Field.form, Config.Field.form, hc.apiBase, hd.apiBase]
    · rw [Config.Field.form, Config.Field.form, hc.issuanceServer, hd.issuanceServer]
    · rw [Config.Field.form, Config.Field.form, hc.locale, hd.locale]
    · cases hflag : flags.noConfirm with
      | true =>
          rw [Config.Field.form, Config.Field.form, hc.unconfirmed hflag, hd.unconfirmed hflag]
      | false => exact (hc.confirmed hflag).form_eq (hd.confirmed hflag)
  · exact (hc.rest f hf).form_eq (hd.rest f hf)

/-- A command starts from a configuration that takes what the file gives. -/
theorem exists_supplies (h : inv.baseConfig files = .ok base) :
    ∃ given, Supplies files inv.configPath given ∧ ∀ f, base.Takes (given f) f := by
  unfold Invocation.baseConfig at h
  split at h
  next hpath =>
    obtain rfl := Except.ok.inj h
    rw [hpath]
    exact ⟨_, .nothing, Config.takes_none⟩
  next path hpath =>
    split at h
    next => cases h
    next content hcontent =>
      have haccepted := mapError_eq_ok_iff.mp h
      obtain ⟨hread, -⟩ := Config.ofText_eq_ok_iff.mp haccepted
      obtain ⟨v, hv, hconfig⟩ := Option.bind_eq_some_iff.mp hread
      obtain ⟨given, hgiven, htakes⟩ := Config.ofJson?_eq_some_iff.mp hconfig
      rw [hpath]
      exact ⟨given, .file hcontent hv hgiven haccepted, htakes⟩

/-- A file that is accepted by itself lets a command start, whatever the layers above it are. -/
theorem Supplies.exists_base (h : Supplies files inv.configPath given) :
    ∃ base, inv.baseConfig files = .ok base ∧ ∀ f, base.Takes (given f) f := by
  unfold Invocation.baseConfig
  generalize inv.configPath = path at h
  cases h with
  | nothing => exact ⟨{}, rfl, Config.takes_none⟩
  | @file path content v base given hcontent hv hgiven haccepted =>
      simp only [hcontent]
      refine ⟨base, mapError_eq_ok_iff.mpr haccepted, ?_⟩
      obtain ⟨hread, -⟩ := Config.ofText_eq_ok_iff.mp haccepted
      rw [Wire.decode?, hv, Option.bind_some] at hread
      obtain ⟨found, hfound, htakes⟩ := Config.ofJson?_eq_some_iff.mp hread
      -- the fields are looked up once more, with the same result
      have hsame := List.map_inj_left.mp (Option.some.inj (hfound.symm.trans hgiven))
      intro f
      rw [← hsame f (Named.mem_all f)]
      exact htakes f

end Layers

/-- What a task does under a configuration. -/
def Task.report {σ : Type} (net : Http.Network σ) (world : σ) (c : Config) (input : String) :
    Task → Report
  | .print line => ⟨line ++ "\n", .success⟩
  | .converse link => .ofDialogue (conversation net world c link (linesOf input))

theorem program_eq_report {σ : Type} {env : String → Option String} {files : Files}
    {args : List String} {inv : Invocation} {c : Config} (net : Http.Network σ) (world : σ)
    (hread : Invocation.read env args = .ok inv) (hload : inv.loadConfig files = .ok c)
    (input : String) :
    program net world env files input args = (inv.command.task c).report net world c input := by
  cases htask : inv.command.task c with
  | print line => simp [program, hread, hload, htask, Task.report]
  | converse link => exact program_eq_ofDialogue net world hread hload htask input

/-- A configuration is loaded exactly if the file, if there is one, is accepted by itself, the layers
settle this configuration, and it passes the check. A command is carried out under such a configuration
or not at all. -/
theorem loads_layers {env : String → Option String} {args : List String} {inv : Invocation}
    (hread : Invocation.read env args = .ok inv) (files : Files) :
    ∃ flags, Invocation.read (fun _ => none) args = .ok flags ∧
      (∀ c, inv.loadConfig files = .ok c ↔
        ∃ given, Supplies files (flags.configPath <|> env "PHONEKIT_CONFIG") given ∧
          Layered flags env given c ∧ c.validate = .ok c) ∧
      ∀ {σ : Type} (net : Http.Network σ) (world : σ) (input : String),
        (∃ failure, inv.loadConfig files = .error failure ∧
          program net world env files input args = .ofFailure failure) ∨
        ∃ c, inv.loadConfig files = .ok c ∧ c.validate = .ok c ∧
          program net world env files input args =
            (flags.command.task c).report net world c input := by
  obtain ⟨flags, hflags, rfl⟩ := Invocation.exists_flags hread
  have hloads : ∀ c, (flags.inEnvironment env).loadConfig files = .ok c ↔
      ∃ given, Supplies files (flags.configPath <|> env "PHONEKIT_CONFIG") given ∧
        Layered flags env given c ∧ c.validate = .ok c := by
    intro c
    rw [Invocation.loadConfig_eq_ok_iff]
    constructor
    · rintro ⟨base, hbase, rfl, hsound⟩
      obtain ⟨given, hsupplies, htakes⟩ := exists_supplies hbase
      exact ⟨given, hsupplies, layered_override htakes, Config.validate_eq_ok_iff.mpr ⟨rfl, hsound⟩⟩
    · rintro ⟨given, hsupplies, hlayered, hvalid⟩
      have hsame : Supplies files (flags.inEnvironment env).configPath given := hsupplies
      obtain ⟨base, hbase, htakes⟩ := hsame.exists_base
      exact ⟨base, hbase, (layered_override htakes).eq hlayered,
        (Config.validate_eq_ok_iff.mp hvalid).2⟩
  refine ⟨flags, hflags, hloads, ?_⟩
  intro σ net world input
  cases hload : (flags.inEnvironment env).loadConfig files with
  | error failure =>
      left
      refine ⟨failure, rfl, ?_⟩
      simp only [program, hread, hload]
  | ok c =>
      right
      obtain ⟨given, -, -, hvalid⟩ := (hloads c).mp hload
      exact ⟨c, rfl, hvalid, program_eq_report net world hread hload input⟩

/-- An environment with an address and a language. -/
def twoVariables : String → Option String
  | "PHONEKIT_API_BASE" => some "b"
  | "PHONEKIT_LOCALE" => some "NL"
  | _ => none

/-- Arguments for a file, with an address and without confirmation. -/
def layeredArguments : List String :=
  ["--api-base=a", "--config", "f.json", "config", "--no-confirm"]

/-- What these arguments give by themselves. -/
def layeredFlags : Invocation where
  configPath := some "f.json"
  apiBase := some "a"
  issuanceServer := none
  locale := none
  noConfirm := true
  verbose := false
  command := .config

/-- A file with something for every layer above it and for two other fields. -/
def layeredText : String :=
  "\x7b\"api_base\":\"f\",\"locale\":\"en\",\"confirm_step\":true,\"issuance_server\":\"s\"" ++
    ",\"session_poll_max\":7\x7d"

/-- The configuration with all these layers. -/
def layeredConfig : Config where
  apiBase := "a"
  issuanceServer := "s"
  locale := .nl
  confirmStep := false
  sessionPollMax := 7

/-- Every layer settles some field. -/
theorem loads_layers_of_each :
    Invocation.read twoVariables layeredArguments = .ok (layeredFlags.inEnvironment twoVariables) ∧
    ∃ given, Supplies (fun _ => .ok layeredText) (some "f.json") given ∧
      Layered layeredFlags twoVariables given layeredConfig ∧
      layeredConfig.validate = .ok layeredConfig ∧
      program Http.Network.dead () twoVariables (fun _ => .ok layeredText) "" layeredArguments =
        ⟨layeredConfig.prettyText ++ "\n", .success⟩ := by
  have hread : Invocation.read twoVariables layeredArguments =
      .ok (layeredFlags.inEnvironment twoVariables) := by decide +kernel
  have hload : (layeredFlags.inEnvironment twoVariables).loadConfig (fun _ => .ok layeredText) =
      .ok layeredConfig := by decide +kernel
  obtain ⟨flags, hflags, hloads, hcommand⟩ := loads_layers hread fun _ => .ok layeredText
  have halone : Invocation.read (fun _ => none) layeredArguments = .ok layeredFlags := by
    decide +kernel
  obtain rfl := Except.ok.inj (halone.symm.trans hflags)
  obtain ⟨given, hsupplies, hlayered, hvalid⟩ := (hloads layeredConfig).mp hload
  refine ⟨hread, given, hsupplies, hlayered, hvalid, ?_⟩
  obtain ⟨failure, hfailure, -⟩ | ⟨c, hc, -, hprogram⟩ := hcommand Http.Network.dead () ""
  · rw [hload] at hfailure
    cases hfailure
  · obtain rfl := Except.ok.inj (hload.symm.trans hc)
    exact hprogram

end Cli

end PhoneVerification
