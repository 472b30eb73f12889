import ServiceControl.Proofs.CommandLine.Names
import ServiceControl.Proofs.Config.Records
/-!
# Where a configuration comes from

Four sources make a configuration: the command line, the environment, a file and the defaults, and each field has its own
rule for which of them counts.  Main statement: what a command line that parses is configured as, field by field, and that
nothing but the file can stand in the way (`configuration_precedence`).
-/
namespace ServiceControl.CommandLine

/-- The configuration file that the units or else the environment give. -/
def givenFile (us : List ArgumentUnit) (env : Environment) : Option String :=
  (valuesOf .config us).getLast?.or env.configPath

/-- **What the sources make together.**  The file counts only where one is given. -/
structure Composed (us : List ArgumentUnit) (env : Environment) (file : Option ServiceConfig) (c : ServiceConfig) :
    Prop where
  name : c.name = (givenName us env).getD ((file.map (·.name)).getD Arguments.defaultName)
  displayName : c.displayName = (valuesOf .displayName us).getLast?.or (file.bind (·.displayName))
  restartOnFailure : c.restartOnFailure = true ↔
    .flag .restartOnFailure ∈ us ∨ ∃ f, file = some f ∧ f.restartOnFailure = true
  /-- The arguments of the file, and without any those that launch the service again under its final name. -/
  arguments : c.arguments = if (file.map (·.arguments)).getD [] ≠ [] then (file.map (·.arguments)).getD [] else
    ["run", "--name", c.name] ++ ((givenFile us env).map (["--config", ·])).getD [] ++
      if .flag .debug ∈ us then ["--debug"] else []
  description : c.description = (file.map (·.description)).getD ""
  userName : c.userName = file.bind (·.userName)
  executable : c.executable = file.bind (·.executable)
  options : c.options = (file.map (·.options)).getD []
  context : c.context = .never

namespace Arguments

variable {us : List ArgumentUnit} {env : Environment} {a : Arguments} {read : FileReader}

theorem Says.launchArguments (told : Says us env a) (name : String) : a.launchArguments name =
    ["run", "--name", name] ++ ((givenFile us env).map (["--config", ·])).getD [] ++
      if .flag .debug ∈ us then ["--debug"] else [] := by
  have path : a.configPath = givenFile us env := told.values .config
  have debug : a.debug = true ↔ .flag .debug ∈ us := told.flags .debug
  unfold Arguments.launchArguments
  rw [path, if_congr debug rfl rfl]
  cases givenFile us env <;> rfl

/-- What is put over a file. -/
theorem Says.composed_file (told : Says us env a) {f : ServiceConfig} (context : f.context = .never) :
    Composed us env (some f) (a.overlay f) where
  name := congrArg (Option.getD · f.name) (told.values .name)
  displayName := congrArg (Option.or · f.displayName) ((told.values .displayName).trans Option.or_none)
  restartOnFailure := by
    have flag : a.restartOnFailure = true ↔ .flag .restartOnFailure ∈ us := told.flags .restartOnFailure
    show (a.restartOnFailure || f.restartOnFailure) = true ↔ _
    rw [Bool.or_eq_true, flag]
    exact or_congr_right ⟨fun h => ⟨f, rfl, h⟩, fun ⟨_, same, h⟩ => Option.some.inj same ▸ h⟩
  arguments := by
    rw [← told.launchArguments]
    show (if f.arguments.isEmpty then _ else f.arguments) = if f.arguments ≠ [] then f.arguments else _
    cases f.arguments <;> rfl
  description := rfl
  userName := rfl
  executable := rfl
  options := rfl
  context := context

/-- What is made anew, where there is no file. -/
theorem Says.composed_anew (told : Says us env a) :
    Composed us env none (a.overlay { name := a.name.getD defaultName }) where
  name := by
    have name : a.name = givenName us env := told.values .name
    show a.name.getD (a.name.getD defaultName) = _
    rw [name]
    cases givenName us env <;> rfl
  displayName := congrArg (Option.or · none) ((told.values .displayName).trans Option.or_none)
  restartOnFailure := by
    have flag : a.restartOnFailure = true ↔ .flag .restartOnFailure ∈ us := told.flags .restartOnFailure
    show (a.restartOnFailure || false) = true ↔ _
    rw [Bool.or_false, flag]
    exact ⟨.inl, fun h => h.resolve_right nofun⟩
  arguments := by
    rw [← told.launchArguments]
    rfl
  description := rfl
  userName := rfl
  executable := rfl
  options := rfl
  context := rfl

theorem serviceConfig_eq_error {e : LoadError} :
    a.serviceConfig read = .error e ↔ ∃ path, a.configPath = some path ∧ ServiceConfig.load read path = .error e := by
  have base : a.serviceConfig read = .error e ↔ a.baseConfig read = .error e := by
    unfold serviceConfig
    cases a.baseConfig read with
    | error fault => exact ⟨fun h => h, fun h => h⟩
    | ok base => exact ⟨nofun, nofun⟩
  rw [base, baseConfig]
  cases a.configPath with
  | none => exact ⟨nofun, nofun⟩
  | some path => exact ⟨fun h => ⟨path, rfl, h⟩, fun ⟨_, same, h⟩ => Option.some.inj same ▸ h⟩

/-- **The precedence of the sources**, for every command line that parses, every environment and all files.  A
configuration fails where a file is given and does not load, with what the loader says of it, and nowhere else; else
each field is that of the source that comes first for it. -/
theorem configuration_precedence {argv : List String} (parsed : parse env argv = .ok a) (read : FileReader) :
    ∃ us, Row us argv.tail ∧ Single us ∧
      (∀ e, a.serviceConfig read = .error e ↔
        ∃ path, givenFile us env = some path ∧ ServiceConfig.load read path = .error e) ∧
      ∀ c, a.serviceConfig read = .ok c →
        ∃ file : Option ServiceConfig, (givenFile us env).map (ServiceConfig.load read) = file.map .ok ∧
          Composed us env file c := by
  obtain ⟨us, row, single, told⟩ := parse_eq_ok_iff.1 parsed
  have path : a.configPath = givenFile us env := told.values .config
  refine ⟨us, row, single, fun e => path ▸ serviceConfig_eq_error, fun c configured => ?_⟩
  obtain ⟨base, hbase, rfl⟩ := serviceConfig_eq_ok.1 configured
  rw [← path]
  obtain ⟨file, hpath, loaded⟩ | ⟨hpath, rfl⟩ := baseConfig_cases hbase
  · refine ⟨some base, ?_, told.composed_file (ServiceConfig.load_context loaded)⟩
    rw [hpath, Option.map_some, loaded, Option.map_some]
  · refine ⟨none, ?_, told.composed_anew⟩
    rw [hpath]
    rfl

/-- The environment gives the file and the name, and the name in the file does not count. -/
theorem configuration_precedence_environment :
    let read : FileReader := fun path =>
      if path = "svc.json" then .ok "\x7b\"name\": \"svcA\"\x7d" else .error .notFound
    let env : Environment := { configPath := some "svc.json", name := some "svcB" }
    let a : Arguments := { configPath := some "svc.json", name := some "svcB", debug := true }
    parse env ["infinisvc", "--debug"] = .ok a ∧ ∃ c, a.serviceConfig read = .ok c ∧ c.name = "svcB" ∧
      c.arguments = ["run", "--name", "svcB", "--config", "svc.json", "--debug"] ∧ ∃ us file, Row us ["--debug"] ∧
        (givenFile us env).map (ServiceConfig.load read) = file.map .ok ∧ Composed us env file c := by
  intro read env a
  have loads : (ServiceConfig.load read "svc.json").toOption.map (·.arguments) = some [] := by decide +kernel
  cases hload : ServiceConfig.load read "svc.json" with
  | error e =>
    rw [hload] at loads
    cases loads
  | ok base =>
    rw [hload] at loads
    have bare : base.arguments = [] := Option.some.inj loads
    have configured : a.serviceConfig read = .ok (a.overlay base) := serviceConfig_eq_ok.2 ⟨base, hload, rfl⟩
    obtain ⟨us, row, -, -, composes⟩ :=
      configuration_precedence (show parse env ["infinisvc", "--debug"] = .ok a from rfl) read
    obtain ⟨file, given, composed⟩ := composes _ configured
    exact ⟨rfl, _, configured, rfl, overlay_arguments a bare, us, file, row, given, composed⟩

end Arguments

end ServiceControl.CommandLine
