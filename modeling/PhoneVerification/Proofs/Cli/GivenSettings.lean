import PhoneVerification.Cli.Arguments
import PhoneVerification.Proofs.Reading

/-!
# Settings of the arguments and of the environment

What the arguments give by themselves is what they ask for in an environment without variables. In any
other environment they ask for the same, with the variables for what they do not give (`inEnvironment`). That a
given value never makes way for a variable rests on an invariant of reading arguments: a setting is
added only with a value that it can have (`Reading.Proper`).
-/

namespace PhoneVerification.Cli

namespace Given

/-- Every setting has a value that it can have. -/
def Proper (g : Given) : Prop :=
  ∀ p ∈ g.settings, p.1.accepts p.2 = true

variable {g g' : Given}

theorem proper_empty : Proper {} :=
  List.forall_mem_nil _

namespace Proper

theorem accepts_of_lookup (h : g.Proper) {s : Setting} {value : String}
    (hvalue : g.settings.lookup s = some value) : s.accepts value = true := by
  obtain ⟨l₁, l₂, hsettings, -⟩ := List.lookup_eq_some_iff.mp hvalue
  apply h (s, value)
  rw [hsettings]
  exact List.mem_append_right l₁ List.mem_cons_self

theorem addSetting (h : g.Proper) {s : Setting} {value : String}
    (hadd : g.addSetting s value = .ok g') : g'.Proper := by
  unfold Given.addSetting at hadd
  split at hadd
  next => cases hadd
  next hadmitted =>
    obtain rfl := Except.ok.inj hadd
    simp only [Bool.or_eq_true, Bool.not_eq_true', not_or, Bool.not_eq_false] at hadmitted
    exact List.forall_mem_append.mpr ⟨h, List.forall_mem_singleton.mpr hadmitted.2⟩

theorem addSwitch (h : g.Proper) {s : Switch} (hadd : g.addSwitch s = .ok g') : g'.Proper := by
  unfold Given.addSwitch at hadd
  split at hadd
  next => cases hadd
  next =>
    obtain rfl := Except.ok.inj hadd
    exact h

theorem settle (h : g.Proper) (hsettle : g.settle = .ok g') : g'.Proper := by
  unfold Given.settle at hsettle
  split at hsettle
  next =>
    obtain rfl := Except.ok.inj hsettle
    exact h
  next => cases hsettle
  next s value hpending =>
    -- nothing is known of a value that is still to be added, but it is checked now
    have hrest : Proper { g with pending := none } := h
    exact hrest.addSetting hsettle

end Proper

end Given

namespace Reading

/-- Before the command and after it every setting has a value that it can have. -/
structure Proper (r : Reading) : Prop where
  before : r.before.Proper
  after : r.after.Proper

variable {r r' : Reading}

theorem proper_empty : Proper {} where
  before := Given.proper_empty
  after := Given.proper_empty

namespace Proper

theorem given (h : r.Proper) : r.given.Proper := by
  unfold Reading.given
  split
  · exact h.after
  · exact h.before

theorem withGiven (h : r.Proper) {g : Given} (hg : g.Proper) : (r.withGiven g).Proper := by
  unfold Reading.withGiven
  split
  · exact ⟨h.before, hg⟩
  · exact ⟨hg, h.after⟩

theorem settle (h : r.Proper) (hsettle : r.settle = .ok r') : r'.Proper := by
  unfold Reading.settle at hsettle
  split at hsettle
  · obtain ⟨g, hg, rfl⟩ := map_eq_ok_iff.mp hsettle
    exact h.withGiven (h.given.settle hg)
  · cases hsettle

theorem add (h : r.Proper) {f : Given → Except Halt Given}
    (hf : ∀ {g g' : Given}, g.Proper → f g = .ok g' → g'.Proper) (hadd : r.add f = .ok r') :
    r'.Proper := by
  obtain ⟨settled, hsettled, hadd⟩ := bind_eq_ok_iff.mp hadd
  obtain ⟨g, hg, rfl⟩ := map_eq_ok_iff.mp hadd
  have hproper := h.settle hsettled
  exact hproper.withGiven (hf hproper.given hg)

end Proper

/-- A question is never answered by reading on. -/
theorem stop_ne_ok (halt : Halt) : r.stop halt ≠ .ok r' := by
  intro h
  obtain ⟨-, -, h⟩ := bind_eq_ok_iff.mp h
  cases h

namespace Proper

theorem long (h : r.Proper) {name : String} {value : Option String}
    (hlong : r.long name value = .ok r') : r'.Proper := by
  unfold Reading.long at hlong
  split at hlong
  next => exact h.add (fun hg hadd => hg.addSetting hadd) hlong
  next =>
    refine h.add (fun hg hadd => ?_) hlong
    obtain rfl := Except.ok.inj hadd
    exact hg
  next => exact h.add (fun hg hadd => hg.addSwitch hadd) hlong
  next => cases hlong
  next => cases hlong
  next =>
    split at hlong
    · exact absurd hlong (stop_ne_ok _)
    · split at hlong
      · exact absurd hlong (stop_ne_ok _)
      · cases hlong

theorem short (h : r.Proper) {letter : Char} (hshort : r.short letter = .ok r') : r'.Proper := by
  unfold Reading.short at hshort
  split at hshort
  · exact h.add (fun hg hadd => hg.addSwitch hadd) hshort
  · split at hshort
    · exact absurd hshort (stop_ne_ok _)
    · split at hshort
      · exact absurd hshort (stop_ne_ok _)
      · cases hshort

theorem value (h : r.Proper) {s : String} (hvalue : r.value s = .ok r') : r'.Proper := by
  obtain ⟨settled, hsettled, hvalue⟩ := bind_eq_ok_iff.mp hvalue
  have hproper := h.settle hsettled
  split at hvalue
  · obtain rfl := Except.ok.inj hvalue
    exact ⟨hproper.before, hproper.after⟩
  · cases hvalue

theorem plain (h : r.Proper) {s : String} (hplain : r.plain s = .ok r') : r'.Proper := by
  unfold Reading.plain at hplain
  split at hplain
  next =>
    obtain rfl := Except.ok.inj hplain
    exact h.withGiven h.given
  next => exact h.value hplain
  next =>
    split at hplain
    · obtain rfl := Except.ok.inj hplain
      exact ⟨h.before, h.after⟩
    · split at hplain
      · obtain rfl := Except.ok.inj hplain
        exact ⟨h.before, h.after⟩
      · cases hplain

theorem ask (h : r.Proper) {topic : Topic} {s : String} (hask : r.ask topic s = .ok r') :
    r'.Proper := by
  unfold Reading.ask at hask
  split at hask
  next =>
    obtain rfl := Except.ok.inj hask
    exact ⟨h.before, h.after⟩
  next =>
    split at hask
    · obtain rfl := Except.ok.inj hask
      exact ⟨h.before, h.after⟩
    · cases hask
  next => cases hask

/-- One argument adds a setting only with a value that it can have. -/
theorem next (h : r.Proper) {s : String} (hnext : r.next s = .ok r') : r'.Proper := by
  unfold Reading.next at hnext
  split at hnext
  next => exact h.ask hnext
  next =>
    split at hnext
    · exact h.value hnext
    · split at hnext
      next => exact h.plain hnext
      next =>
        obtain rfl := Except.ok.inj hnext
        exact ⟨h.before, h.after⟩
      next => exact h.long hnext
      next => exact foldlM_preserves (fun hr hshort => hr.short hshort) h hnext

end Proper

/-- All arguments add settings only with values that they can have. -/
theorem proper_foldlM {args : List String} (h : args.foldlM next {} = .ok r) : r.Proper :=
  foldlM_preserves (fun hr hnext => hr.next hnext) proper_empty h

/-- Without settings in the environment, the later place of the arguments wins. -/
theorem setting_eq {env : String → Option String}
    (henv : ∀ s : Setting, env s.variableName = none) (r : Reading) (s : Setting) :
    r.setting env s = .ok (r.after.settings.lookup s <|> r.before.settings.lookup s) := by
  unfold setting
  cases hlater : r.after.settings.lookup s with
  | none => simp [ofEnvironment, henv, bind, Except.bind]
  | some value =>
      cases hearlier : r.before.settings.lookup s with
      | none => simp [ofEnvironment, henv, bind, Except.bind]
      | some earlier => rfl

theorem ofEnvironment_eq_ok {env : String → Option String} {s : Setting} {value : Option String}
    (h : ofEnvironment env s = .ok value) : value = env s.variableName := by
  unfold ofEnvironment at h
  split at h
  next henv =>
    obtain rfl := Except.ok.inj h
    exact henv.symm
  next given henv =>
    split at h
    · obtain rfl := Except.ok.inj h
      exact henv.symm
    · cases h

/-- A variable stands for a setting that is given in neither place. -/
theorem setting_eq_ok {env : String → Option String} {s : Setting} {value : Option String}
    (h : r.setting env s = .ok value) :
    value = (r.after.settings.lookup s <|> r.before.settings.lookup s <|> env s.variableName) := by
  unfold setting at h
  split at h
  next later earlier hlater hearlier =>
    obtain rfl := Except.ok.inj h
    rw [hlater]
    rfl
  next later earlier _ =>
    obtain ⟨fallback, hfallback, h⟩ := bind_eq_ok_iff.mp h
    obtain rfl := Except.ok.inj h
    rw [ofEnvironment_eq_ok hfallback]

end Reading

namespace Invocation

/-- What is asked for in an environment, if the arguments by themselves ask for `flags`. -/
def inEnvironment (flags : Invocation) (env : String → Option String) : Invocation :=
  { flags with
    configPath := flags.configPath <|> env "PHONEKIT_CONFIG"
    apiBase := flags.apiBase <|> env "PHONEKIT_API_BASE"
    issuanceServer := flags.issuanceServer <|> env "PHONEKIT_ISSUANCE_SERVER"
    locale := flags.locale <|> (env "PHONEKIT_LOCALE").bind Locale.ofCode? }

end Invocation

/-- A language that is given is one, so that the variable is not asked for another. -/
theorem Reading.Proper.bind_ofCode? {r : Reading} (h : r.Proper) (fallback : Option String) :
    (r.after.settings.lookup .locale <|> r.before.settings.lookup .locale <|> fallback).bind
        Locale.ofCode? =
      ((r.after.settings.lookup .locale <|> r.before.settings.lookup .locale).bind
          Locale.ofCode? <|>
        fallback.bind Locale.ofCode?) := by
  cases hlater : r.after.settings.lookup .locale with
  | some value =>
      obtain ⟨locale, hlocale⟩ := Option.isSome_iff_exists.mp (h.after.accepts_of_lookup hlater)
      simp [hlocale]
  | none =>
      cases hearlier : r.before.settings.lookup .locale with
      | some value =>
          obtain ⟨locale, hlocale⟩ :=
            Option.isSome_iff_exists.mp (h.before.accepts_of_lookup hearlier)
          simp [hlocale]
      | none => simp

/-- In an environment the arguments ask for what they give by themselves, and otherwise for what the
variables give. -/
theorem Reading.Proper.finish {r : Reading} {env : String → Option String} {inv : Invocation}
    (h : r.Proper) (hfinish : r.finish env = .ok inv) :
    ∃ flags, r.finish (fun _ => none) = .ok flags ∧ inv = flags.inEnvironment env := by
  unfold Reading.finish at hfinish ⊢
  split at hfinish
  next => cases hfinish
  next =>
    obtain ⟨after, hafter, hfinish⟩ := bind_eq_ok_iff.mp hfinish
    obtain ⟨before, hbefore, hfinish⟩ := bind_eq_ok_iff.mp hfinish
    obtain ⟨command, hcommand, hfinish⟩ := bind_eq_ok_iff.mp hfinish
    obtain ⟨configPath, hconfigPath, hfinish⟩ := bind_eq_ok_iff.mp hfinish
    obtain ⟨apiBase, hapiBase, hfinish⟩ := bind_eq_ok_iff.mp hfinish
    obtain ⟨issuanceServer, hissuanceServer, hfinish⟩ := bind_eq_ok_iff.mp hfinish
    obtain ⟨locale, hlocale, hfinish⟩ := bind_eq_ok_iff.mp hfinish
    obtain rfl := Except.ok.inj hfinish
    have hproper : Proper { r with after := after, before := before } :=
      ⟨h.before.settle hbefore, h.after.settle hafter⟩
    -- the same options are settled in every environment, and only the settings differ
    have halone : ∀ s : Setting, Reading.setting { r with after := after, before := before }
        (fun _ => none) s = .ok (after.settings.lookup s <|> before.settings.lookup s) := by
      apply setting_eq
      intro s
      rfl
    simp only [hafter, hbefore, hcommand, bind, Except.bind, halone]
    refine ⟨_, rfl, ?_⟩
    rw [setting_eq_ok hconfigPath, setting_eq_ok hapiBase, setting_eq_ok hissuanceServer,
      setting_eq_ok hlocale, hproper.bind_ofCode?]
    simp only [Invocation.inEnvironment, Option.orElse_eq_orElse, Option.orElse_eq_or,
      Option.or_assoc]
    rfl

/-- What is asked for in an environment is what the arguments give by themselves, with the variables for
what they do not give. -/
theorem Invocation.exists_flags {env : String → Option String} {args : List String}
    {inv : Invocation} (h : Invocation.read env args = .ok inv) :
    ∃ flags, Invocation.read (fun _ => none) args = .ok flags ∧ inv = flags.inEnvironment env := by
  obtain ⟨r, hr, hfinish⟩ := bind_eq_ok_iff.mp h
  obtain ⟨flags, hflags, rfl⟩ := (Reading.proper_foldlM hr).finish hfinish
  exact ⟨flags, bind_eq_ok_iff.mpr ⟨r, hr, hflags⟩, rfl⟩

end PhoneVerification.Cli
