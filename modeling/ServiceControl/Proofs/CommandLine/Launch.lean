import ServiceControl.Proofs.CommandLine.Grammar
/-!
# Launching a service again

What a manager passes to the program to run a service is a row of units, written down.  Written units are read back as
they are, whatever their values look like (`units_words`).  Main statement: a program that is launched with the arguments
that it registered is configured as it was, but for what the command line alone had said of the display name and the
restarts (`launch_repeats`).
-/
namespace ServiceControl.CommandLine

/-! ## Written units -/

def Flag.word : Flag → String
  | help => "--help"
  | version => "--version"
  | debug => "--debug"
  | restartOnFailure => "--restart-on-failure"

namespace ArgumentUnit

/-- A unit as it stands on a command line. -/
def words : ArgumentUnit → List String
  | flag f => [f.word]
  | valued option value => [option.word, value]
  | command c => [c.word]

theorem spelt_words (u : ArgumentUnit) : u.Spelt u.words := by
  cases u with
  | flag f => exact .flag (by cases f <;> decide)
  | valued option value => exact .valued option value
  | command c => exact .command c

end ArgumentUnit

theorem row_words (us : List ArgumentUnit) : Row us (us.flatMap ArgumentUnit.words) := by
  induction us with
  | nil => exact .nil
  | cons u us ih => exact .cons u.spelt_words ih

/-- **Written units are read back as they are**, if there is at most one command among them.  A value may be any text, also
that of a flag, an option or a command. -/
theorem units_words {us : List ArgumentUnit} (single : Single us) :
    units false (us.flatMap ArgumentUnit.words) = .ok us :=
  units_eq_ok_iff.2 ⟨row_words us, single⟩

namespace Arguments

/-! ## Launch arguments -/

/-- What the launch arguments say. -/
def launchUnits (a : Arguments) (name : String) : List ArgumentUnit :=
  [.command .run, .valued .name name] ++ (a.configPath.map (.valued .config)).toList ++
    if a.debug then [.flag .debug] else []

/-- A command line that runs the service of a name with the same configuration file. -/
def launched (a : Arguments) (name : String) : Arguments :=
  { command := some .run, configPath := a.configPath, name := some name, debug := a.debug }

theorem launchArguments_words (a : Arguments) (name : String) :
    a.launchArguments name = (a.launchUnits name).flatMap ArgumentUnit.words := by
  unfold launchArguments launchUnits
  cases a.configPath <;> cases a.debug <;> rfl

theorem launchUnits_single (a : Arguments) (name : String) : Single (a.launchUnits name) := by
  unfold launchUnits
  cases a.configPath <;> cases a.debug <;> exact Nat.le_refl 1

theorem ofUnits_launchUnits (a : Arguments) (name : String) : ofUnits (a.launchUnits name) = a.launched name := by
  unfold launchUnits launched
  cases a.configPath <;> cases a.debug <;> rfl

/-- **Launch arguments are read back**, and the environment has no say in them, unless it names a configuration file where
there was none. -/
theorem parse_launchArguments (a : Arguments) (name program : String) {env : Environment}
    (unset : a.configPath = none → env.configPath = none) :
    parse env (program :: a.launchArguments name) = .ok (a.launched name) := by
  have hunits : units false (a.launchArguments name) = .ok (a.launchUnits name) := by
    rw [launchArguments_words]
    exact units_words (launchUnits_single a name)
  have hpath : a.configPath.or env.configPath = a.configPath := by
    cases h : a.configPath with
    | none => rw [unset h, Option.or_none]
    | some path => rfl
  unfold parse
  rw [List.tail_cons, hunits]
  show Except.ok ((ofUnits (a.launchUnits name)).complete env) = _
  rw [ofUnits_launchUnits]
  unfold complete launched
  rw [hpath]
  rfl

/-! ## Configurations -/

/-- What a command line puts over a configuration. -/
def overlay (a : Arguments) (base : ServiceConfig) : ServiceConfig :=
  { base with
    name := a.name.getD base.name
    displayName := a.displayName.or base.displayName
    restartOnFailure := a.restartOnFailure || base.restartOnFailure
    arguments :=
      if base.arguments.isEmpty then a.launchArguments (a.name.getD base.name) else base.arguments }

theorem serviceConfig_eq_ok {a : Arguments} {read : FileReader} {c : ServiceConfig} :
    a.serviceConfig read = .ok c ↔ ∃ base, a.baseConfig read = .ok base ∧ a.overlay base = c := by
  unfold serviceConfig
  cases a.baseConfig read with
  | error e =>
    constructor
    · intro h
      cases h
    · rintro ⟨base, h, -⟩
      cases h
  | ok base =>
    constructor
    · intro h
      exact ⟨base, rfl, Except.ok.inj h⟩
    · rintro ⟨_, h, rfl⟩
      obtain rfl := Except.ok.inj h
      rfl

/-- A configuration is that of a file, or made anew. -/
theorem baseConfig_cases {a : Arguments} {read : FileReader} {base : ServiceConfig} (h : a.baseConfig read = .ok base) :
    (∃ path, a.configPath = some path ∧ ServiceConfig.load read path = .ok base) ∨
      a.configPath = none ∧ base = { name := a.name.getD defaultName } := by
  unfold baseConfig at h
  cases hpath : a.configPath with
  | some path =>
    rw [hpath] at h
    exact .inl ⟨path, rfl, h⟩
  | none =>
    rw [hpath] at h
    exact .inr ⟨rfl, (Except.ok.inj h).symm⟩

/-- The launch arguments name the file that was read; what is made anew instead has the name that they give. -/
theorem baseConfig_launched {a : Arguments} {read : FileReader} {base : ServiceConfig} (h : a.baseConfig read = .ok base)
    (name : String) : ∃ named, (a.launched name).baseConfig read = .ok { base with name := named } := by
  unfold baseConfig launched
  obtain ⟨path, hpath, hfile⟩ | ⟨hpath, rfl⟩ := baseConfig_cases h
  · rw [hpath]
    exact ⟨base.name, hfile⟩
  · rw [hpath]
    exact ⟨name, rfl⟩

/-- Launched under its name, a service differs from what was configured in the display name and the restarts alone; what
name the configuration itself has does not matter then. -/
theorem overlay_launched (a : Arguments) {base : ServiceConfig} (bare : base.arguments = []) (named : String) :
    (a.launched (a.overlay base).name).overlay { base with name := named } =
      { a.overlay base with displayName := base.displayName, restartOnFailure := base.restartOnFailure } := by
  unfold overlay launched
  simp only [bare, List.isEmpty_nil, if_true, Option.getD_some, Option.none_or, Bool.false_or]
  rfl

theorem overlay_arguments (a : Arguments) {base : ServiceConfig} (bare : base.arguments = []) :
    (a.overlay base).arguments = a.launchArguments (a.overlay base).name := by
  unfold overlay
  simp only [bare, List.isEmpty_nil, if_true]

/-- **A service that is launched with the arguments that it was registered with is configured as it was**, whatever
command line and environment those came from.  Nothing but the display name and the restarts may differ: they are those
of the file, and unset where there is none. -/
theorem launch_repeats {a : Arguments} {read : FileReader} {c : ServiceConfig} {env : Environment} (program : String)
    (configured : a.serviceConfig read = .ok c)
    (bare : ∀ path file, a.configPath = some path → ServiceConfig.load read path = .ok file → file.arguments = [])
    (unset : a.configPath = none → env.configPath = none) :
    ∃ b c₂, parse env (program :: c.arguments) = .ok b ∧ b.serviceConfig read = .ok c₂ ∧
      b = { command := some .run, configPath := a.configPath, name := some c.name, debug := a.debug } ∧
      c₂.name = c.name ∧ c₂.description = c.description ∧ c₂.userName = c.userName ∧
      c₂.executable = c.executable ∧ c₂.options = c.options ∧ c₂.arguments = c.arguments ∧
      (∀ path file, a.configPath = some path → ServiceConfig.load read path = .ok file →
        c₂.displayName = file.displayName ∧ c₂.restartOnFailure = file.restartOnFailure) ∧
      (a.configPath = none → c₂.displayName = none ∧ c₂.restartOnFailure = false) := by
  obtain ⟨base, hbase, rfl⟩ := serviceConfig_eq_ok.1 configured
  have hbare : base.arguments = [] := by
    obtain ⟨path, hpath, hfile⟩ | ⟨-, rfl⟩ := baseConfig_cases hbase
    · exact bare path base hpath hfile
    · rfl
  obtain ⟨named, hagain⟩ := baseConfig_launched hbase (a.overlay base).name
  refine ⟨a.launched (a.overlay base).name, _, ?_, serviceConfig_eq_ok.2 ⟨_, hagain, overlay_launched a hbare named⟩, rfl,
    rfl, rfl, rfl, rfl, rfl, rfl, ?_⟩
  · rw [overlay_arguments a hbare]
    exact parse_launchArguments a _ program unset
  · obtain ⟨path, hpath, hfile⟩ | ⟨hpath, rfl⟩ := baseConfig_cases hbase
    · refine ⟨?_, fun never => absurd (never.symm.trans hpath) nofun⟩
      intro path' file hpath' hfile'
      obtain rfl := Option.some.inj (hpath.symm.trans hpath')
      obtain rfl := Except.ok.inj (hfile.symm.trans hfile')
      exact ⟨rfl, rfl⟩
    · exact ⟨fun path _ hpath' => absurd (hpath.symm.trans hpath') nofun, fun _ => ⟨rfl, rfl⟩⟩

/-- A name that looks like a flag, in a file whose path looks like a command, and an environment that says otherwise. -/
theorem launch_repeats_disguised :
    let text := "\x7b\"name\": \"svcA\", \"display_name\": \"Service A\", \"restart_on_failure\": true\x7d"
    let read : FileReader := fun path => if path = "run" then .ok text else .error .notFound
    let argv := ["svc", "install", "--config", "run", "--name", "--debug", "--debug", "--display-name", "Shown"]
    let a : Arguments := {
      command := some .install
      configPath := some "run"
      name := some "--debug"
      displayName := some "Shown"
      debug := true }
    let env : Environment := { configPath := some "other", name := some "svcB" }
    parse {} argv = .ok a ∧ ∃ c b c₂, a.serviceConfig read = .ok c ∧
      c.arguments = ["run", "--name", "--debug", "--config", "run", "--debug"] ∧
      parse env ("svc" :: c.arguments) = .ok b ∧ b.serviceConfig read = .ok c₂ ∧
      b = { command := some .run, configPath := some "run", name := some "--debug", debug := true } ∧
      c₂.name = "--debug" ∧ c₂.arguments = c.arguments ∧ c₂.displayName = some "Service A" ∧
      c₂.restartOnFailure = true := by
  intro text read argv a env
  let facts (f : ServiceConfig) := (f.arguments, f.displayName, f.restartOnFailure)
  have loads : (ServiceConfig.load read "run").toOption.map facts = some ([], some "Service A", true) := by
    decide +kernel
  obtain ⟨file, hload, hfacts⟩ : ∃ file, ServiceConfig.load read "run" = .ok file ∧
      facts file = ([], some "Service A", true) := by
    cases h : ServiceConfig.load read "run" with
    | error e =>
      rw [h] at loads
      cases loads
    | ok file =>
      rw [h] at loads
      exact ⟨file, rfl, Option.some.inj loads⟩
  have harguments : file.arguments = [] := congrArg (·.1) hfacts
  have configured : a.serviceConfig read = .ok (a.overlay file) := serviceConfig_eq_ok.2 ⟨file, hload, rfl⟩
  have bare : ∀ path f, a.configPath = some path → ServiceConfig.load read path = .ok f → f.arguments = [] := by
    intro path f hpath hf
    obtain rfl := Option.some.inj hpath
    obtain rfl := Except.ok.inj (hload.symm.trans hf)
    exact harguments
  obtain ⟨b, c₂, hparse, hconfig, hb, hname, -, -, -, -, hargs, hfile, -⟩ :
      ∃ b c₂, parse env ("svc" :: (a.overlay file).arguments) = .ok b ∧ _ :=
    launch_repeats "svc" configured bare nofun
  obtain ⟨hdisplay, hrestart⟩ := hfile "run" file rfl hload
  refine ⟨rfl, a.overlay file, b, c₂, configured, ?_, hparse, hconfig, hb, hname, hargs, ?_, ?_⟩
  · exact overlay_arguments a harguments
  · exact hdisplay.trans (congrArg (·.2.1) hfacts)
  · exact hrestart.trans (congrArg (·.2.2) hfacts)

end Arguments

end ServiceControl.CommandLine
