import ServiceControl.Config
/-!
# Service entries

What a manager is told when a service is registered, and what it does when the service fails.
-/
namespace ServiceControl

inductive StartType
  | automatic
  | manual
  deriving DecidableEq, Repr, Inhabited

/-- All that a manager needs to create an entry. -/
structure ServiceSpec where
  name : String
  displayName : String := ""
  description : String := ""
  executable : String := ""
  arguments : List String := []
  startType : StartType := .automatic
  account : Option String := none
  password : Option String := none
  deriving DecidableEq, Repr, Inhabited

/-- The path of the running executable, or why the system does not tell it. -/
abbrev RunningBinary := Except String String

/-- The entry of a configuration.  Only a configuration without an executable asks for the running one. -/
def ServiceSpec.ofConfig (binary : RunningBinary) (c : ServiceConfig) : Except ServiceError ServiceSpec :=
  match c.executable.map Except.ok |>.getD binary with
  | .error reason => .error (.manager s!"failed to resolve executable path: {reason}")
  | .ok executable => .ok {
      name := c.name
      displayName := c.display
      description := c.description
      executable
      arguments := c.arguments
      startType := .automatic
      account := c.userName
      password := c.password? }

section OfConfig

variable {binary : RunningBinary} {c : ServiceConfig}

theorem ServiceSpec.name_ofConfig {spec : ServiceSpec} (h : ofConfig binary c = .ok spec) : spec.name = c.name := by
  unfold ofConfig at h
  split at h
  · cases h
  · obtain rfl := Except.ok.inj h
    rfl

theorem ServiceSpec.error_ofConfig {e : ServiceError} (h : ofConfig binary c = .error e) :
    ∃ reason : String, e = .manager s!"failed to resolve executable path: {reason}" := by
  unfold ofConfig at h
  split at h
  · exact ⟨_, (Except.error.inj h).symm⟩
  · cases h

end OfConfig

/-- What a manager does when the process of a service fails. -/
inductive RecoveryAction
  | none
  | restart (delay : Nat)
  deriving DecidableEq, Repr, Inhabited

/-- Restarts at once, every time. -/
def RecoveryAction.restartNow : RecoveryAction := .restart 0

end ServiceControl
