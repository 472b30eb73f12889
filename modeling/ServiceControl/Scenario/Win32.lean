import ServiceControl.Scenario.Outcome
import ServiceControl.Windows.Gateway
/-!
# Scenarios over Windows

Orders to one controller, and direct uses of the gateway, over a Windows that replies by a script.
-/
namespace ServiceControl.Scenario.Win32

open ServiceControl.Windows (Handle)

/-- Windows, the replies to attempts to terminate a process, and the attempts with their times, the latest first. -/
structure Bench where
  windows : Windows.Machine := {}
  terminations : List (Option ServiceError) := []
  terminated : List (Nat × Nat) := []

abbrev World := Stage Bench

def cell : Cell World Windows.Machine := Stage.managerCell.inside ⟨(·.windows), fun m b => { b with windows := m }⟩

/-- Takes the reply to an attempt to terminate a process; the last one is repeated. -/
def takeTermination (now pid : Nat) (b : Bench) : Option ServiceError × Bench :=
  let b := { b with terminated := (now, pid) :: b.terminated }
  match b.terminations with
  | [] => (none, b)
  | [reply] => (reply, b)
  | reply :: rest => (reply, { b with terminations := rest })

def terminate (pid : Nat) : Call World Unit := do
  match ← Act.takeFrom Stage.managerCell (takeTermination (← Act.now) pid) with
  | some e => throw e
  | none => return

def gateway : Gateway World Handle Handle := Windows.gateway cell

inductive Step
  | order (order : Order)
  | job
  | stopTimeout
  | registerLogSource (name : String)
  | removeLogSource (name : String)
  | create (spec : ServiceSpec)
  | query (name : String)
  | control (name : String) (signal : ControlSignal)
  | recovery (name : String) (action : RecoveryAction)

/-- Uses the entry of a name in a session of its own. -/
def onEntry {α : Type} (name : String) (use : Handle → Call World α) : Call World α :=
  holding gateway.connect gateway.closeSession fun session =>
    holding (gateway.openEntry session name) gateway.closeEntry use

/-- Creates an entry in a session of its own. -/
def create (spec : ServiceSpec) : Call World Unit :=
  holding gateway.connect gateway.closeSession fun session =>
    holding (gateway.create session spec) gateway.closeEntry fun _ => pure ()

def Step.perform (role : Role) (binary : RunningBinary) : Step → Task World Outcome
  | .order task => task.perform (role.controller 0 gateway terminate binary)
  | .job => do return .job (← (lookAtJob 0 : Act World JobView))
  | .stopTimeout => do return .text (toString (← gateway.stopTimeout))
  | .registerLogSource name => do return .ofUnit (← (gateway.registerLogSource name).run)
  | .removeLogSource name => do return .ofUnit (← (gateway.removeLogSource name).run)
  | .create spec => do return .ofUnit (← (Win32.create spec).run)
  | .query name => do return .ofStatus (← (onEntry name gateway.query).run)
  | .control name signal => do return .ofStatus (← (onEntry name fun e => gateway.control e signal).run)
  | .recovery name action => do return .ofUnit (← (onEntry name fun e => gateway.setRecovery e action).run)

/-- What there is to see after a step. -/
structure Snapshot where
  outcome : Outcome
  now : Nat
  /-- What was called in this step. -/
  calls : List Windows.Call
  /-- How many handles live after it. -/
  live : Nat
  terminated : List (Nat × Nat)

/-- Takes what was called since the last look. -/
def look (outcome : Outcome) (s : Scene World) : Snapshot × Scene World :=
  let b := s.world.manager
  (⟨outcome, s.now, b.windows.calls.reverse, b.windows.live.length, b.terminated.reverse⟩,
    { s with world := { s.world with
        manager := { b with windows := { b.windows with calls := [] }, terminated := [] } } })

def play (role : Role) (binary : RunningBinary) : List Step → Scene World → List Snapshot × Journal
  | [], s => ([], s.journal.reverse)
  | step :: steps, s =>
    let (outcome, s) := playStep (step.perform role binary) s
    let (snapshot, s) := look outcome s
    let (snapshots, journal) := play role binary steps s
    (snapshot :: snapshots, journal)

/-- Plays steps over a Windows with a script. -/
def run (role : Role) (script : Windows.Machine) (terminations : List (Option ServiceError)) (binary : RunningBinary)
    (steps : List Step) : List Snapshot × Journal :=
  play role binary steps { world := {
    manager := { windows := script, terminations }
    actors := [{ job := role.job }] } }

end ServiceControl.Scenario.Win32
