import ServiceControl.Proofs.CommandLine.Launch
/-!
# Names of services

The name of a service is the one that is given on the command line or in the environment, and else that of the loaded file
or the default.  A file without a name does not load, but a given name is not looked at.  Main statement: a name is blank
exactly where a blank one is given (`name_blank_iff`).
-/
namespace ServiceControl.CommandLine

/-- The name that the units or else the environment give. -/
def givenName (us : List ArgumentUnit) (env : Environment) : Option String := (valuesOf .name us).getLast?.or env.name

namespace Arguments

variable {a : Arguments} {read : FileReader} {c : ServiceConfig}

/-- A name that is not given is not blank. -/
theorem baseConfig_name {base : ServiceConfig} (h : a.baseConfig read = .ok base) (ungiven : a.name = none) :
    Text.trim base.name.toList ≠ [] := by
  obtain ⟨path, -, hload⟩ | ⟨-, rfl⟩ := baseConfig_cases h
  · exact ServiceConfig.load_name hload
  · rw [ungiven]
    decide

/-- **The name of a service** is the given one, and otherwise not blank. -/
theorem serviceConfig_name (h : a.serviceConfig read = .ok c) :
    (∀ name, a.name = some name → c.name = name) ∧ (a.name = none → Text.trim c.name.toList ≠ []) := by
  obtain ⟨base, hbase, rfl⟩ := serviceConfig_eq_ok.1 h
  refine ⟨fun name given => ?_, fun ungiven => ?_⟩
  · show a.name.getD base.name = name
    rw [given, Option.getD_some]
  · show Text.trim (a.name.getD base.name).toList ≠ []
    rw [ungiven, Option.getD_none]
    exact baseConfig_name hbase ungiven

/-- **A service that is configured has a blank name exactly where a blank name is given**, by the last `--name` of the
command line or, without any, by the environment.  A name that is given is taken as it is. -/
theorem name_blank_iff {env : Environment} {argv : List String} (parsed : parse env argv = .ok a)
    (configured : a.serviceConfig read = .ok c) :
    ∃ us, Row us argv.tail ∧ Single us ∧ (∀ name, givenName us env = some name → c.name = name) ∧
      (Text.trim c.name.toList = [] ↔ ∃ name, givenName us env = some name ∧ Text.trim name.toList = []) := by
  obtain ⟨us, row, single, told⟩ := parse_eq_ok_iff.1 parsed
  obtain ⟨given, ungiven⟩ := serviceConfig_name configured
  have hname : a.name = givenName us env := told.values .name
  rw [hname] at given ungiven
  refine ⟨us, row, single, given, ?_, ?_⟩
  · intro blank
    cases h : givenName us env with
    | none => exact absurd blank (ungiven h)
    | some name => exact ⟨name, rfl, given name h ▸ blank⟩
  · rintro ⟨name, h, blank⟩
    rw [given name h]
    exact blank

/-- The environment gives an empty name. -/
theorem name_blank_environment :
    let env : Environment := { name := some "" }
    let a : Arguments := { name := some "" }
    let c : ServiceConfig := { name := "", arguments := ["run", "--name", ""] }
    parse env ["svc"] = .ok a ∧ a.serviceConfig (fun _ => .error .notFound) = .ok c ∧ ∃ us, Row us [] ∧
      (Text.trim c.name.toList = [] ↔ ∃ name, givenName us env = some name ∧ Text.trim name.toList = []) := by
  intro env a c
  obtain ⟨us, row, -, -, blank⟩ := name_blank_iff (show parse env ["svc"] = .ok a from rfl)
    (show a.serviceConfig (fun _ => .error .notFound) = .ok c from rfl)
  exact ⟨rfl, rfl, us, row, blank⟩

/-- A blank name takes the place of the one in the file, which was looked at when the file was loaded. -/
theorem name_blank_overriding :
    let read : FileReader := fun path =>
      if path = "svc.json" then .ok "\x7b\"name\": \"svcA\"\x7d" else .error .notFound
    ∃ a c, parse {} ["infinisvc", "--config", "svc.json", "--name", "  "] = .ok a ∧ a.serviceConfig read = .ok c ∧
      Text.trim c.name.toList = [] := by
  intro read
  let a : Arguments := { configPath := some "svc.json", name := some "  " }
  have blank : Text.trim "  ".toList = [] := by decide
  have loads : (ServiceConfig.load read "svc.json").toOption.map (·.name) = some "svcA" := by decide +kernel
  cases hload : ServiceConfig.load read "svc.json" with
  | error e =>
    rw [hload] at loads
    cases loads
  | ok file => exact ⟨a, a.overlay file, rfl, serviceConfig_eq_ok.2 ⟨file, hload, rfl⟩, blank⟩

end Arguments

end ServiceControl.CommandLine
