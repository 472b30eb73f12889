import ServiceControl.Memory.Gateway
import ServiceControl.Scenario.Outcome
/-!
# Scenarios of a shared manager

Steps that several controllers and direct users of one memory manager take, one after another or side by side.  A direct
user holds sessions and entries under labels of its own.
-/
namespace ServiceControl.Scenario.Shared

/-- The manager, and what is held of it under labels: sessions, and entries with the label of their session. -/
structure Bench where
  machine : Memory.Machine := {}
  sessions : List String := []
  entries : NameMap (String × String) := []
  deriving Inhabited

abbrev World := Stage Bench

def machineCell : Cell World Memory.Machine :=
  Stage.managerCell.inside ⟨(·.machine), fun m b => { b with machine := m }⟩

def benchCell : Cell World Bench := Stage.managerCell

/-! ## Steps on the manager -/

inductive MachineStep
  | set (change : Memory.Machine → Memory.Machine)
  | sleep (ms : Nat)
  | stopTimeout
  | service (name : String)
  | terminate (pid : Nat)
  | registerLogSource (name : String)
  | removeLogSource (name : String)
  | connect (session : String)
  | openEntry (session entry name : String)
  | create (session entry : String) (spec : ServiceSpec)
  | query (entry : String)
  | start (entry : String)
  | control (entry : String) (signal : ControlSignal)
  | setRecovery (entry : String) (action : RecoveryAction)
  | delete (entry : String)
  | closeEntry (entry : String)
  | closeSession (session : String)

/-- Gives back the entry under a label, if there is one. -/
def dropEntry (label : String) : Act World Bool := do
  let bench ← Act.read benchCell
  if bench.entries.has label then
    Memory.onMachine machineCell Memory.closeEntry
    Act.update benchCell fun b => { b with entries := b.entries.erase label }
    return true
  else return false

/-- Gives back the session under a label, and before it the entries that were opened in it. -/
def dropSession (label : String) : Act World Bool := do
  let bench ← Act.read benchCell
  if bench.sessions.contains label then
    for (entry, session, _) in bench.entries do
      if session = label then let _ ← dropEntry entry
    Memory.onMachine machineCell Memory.closeSession
    Act.update benchCell fun b => { b with sessions := b.sessions.erase label }
    return true
  else return false

/-- Opens an entry under a label; what was held under it is given back after that. -/
def holdEntry (session label : String) (acquire : Memory.Ask String) : Act World Outcome := do
  if !(← Act.read benchCell).sessions.contains session then return .noHandle
  match ← (Memory.asking machineCell acquire).run with
  | .error e => return .refused e
  | .ok name =>
    let _ ← dropEntry label
    Act.update benchCell fun b => { b with entries := b.entries.put label (session, name) }
    return .done

/-- Asks something of the entry under a label. -/
def onEntry (label : String) (ask : String → Act World Outcome) : Act World Outcome := do
  match (← Act.read benchCell).entries.find? label with
  | none => return .noHandle
  | some (_, name) => ask name

def asking (ask : Nat → Memory.Ask Unit) : Act World Outcome := do
  return .ofUnit (← (Memory.askingNow machineCell ask).run)

def askingStatus (ask : Nat → Memory.Ask ServiceStatus) : Act World Outcome := do
  return .ofStatus (← (Memory.askingNow machineCell ask).run)

def lookAtService (name : String) : Act World (Option Memory.Service) := do
  Memory.onMachine machineCell (Memory.service (← Act.now) name)

def MachineStep.perform : MachineStep → Task World Outcome
  | .set change => do
    Act.update machineCell change
    return .done
  | .sleep ms => do
    Task.sleep ms
    return .done
  | .stopTimeout => do return .text (toString (← Act.read machineCell).stopTimeout)
  | .service name => do return .service (← lookAtService name)
  | .terminate pid => asking fun _ => Memory.terminate pid
  | .registerLogSource name => asking fun _ => Memory.registerLogSource name
  | .removeLogSource name => asking fun _ => Memory.removeLogSource name
  | .connect label => do
    match ← (Memory.asking machineCell Memory.connect).run with
    | .error e => return .refused e
    | .ok () =>
      let _ ← dropSession label
      Act.update benchCell fun b => { b with sessions := label :: b.sessions }
      return .done
  | .openEntry session label name => holdEntry session label (Memory.openEntry name)
  | .create session label spec => holdEntry session label (Memory.create spec)
  | .query label => onEntry label fun name => askingStatus fun now => Memory.query now name
  | .start label => onEntry label fun name => asking fun now => Memory.start now name
  | .control label signal => onEntry label fun name => askingStatus fun now => Memory.control now name signal
  | .setRecovery label action => onEntry label fun name => asking fun now => Memory.setRecovery now name action
  | .delete label => onEntry label fun name => asking fun _ => Memory.delete name
  | .closeEntry label => do return .flag (← dropEntry label)
  | .closeSession label => do return .flag (← dropSession label)

/-! ## Steps on a controller -/

inductive ControllerStep
  | order (order : Order)
  /-- A run that is given up after some time. -/
  | runWithin (ms : Nat)
  | cancel
  | dropTrigger
  | view
  | startWorkload
  | stopWorkload
  | job
  | unknown (step : String)

def ControllerStep.perform (role : Role) (i : Nat) (binary : RunningBinary) : ControllerStep → Task World Outcome
  | .order task => task.perform c
  | .runWithin ms => do return ((← Task.within ms (Order.run.perform c)).getD .pending)
  | .cancel => do
    match ← Act.read (Stage.triggerCell i) with
    | none => return .flag false
    | some trigger =>
      Act.update Stage.triggersCell (·.fire trigger)
      return .flag true
  | .dropTrigger => do
    let trigger ← Act.read (Stage.triggerCell i)
    Act.write (Stage.triggerCell i) none
    return .flag trigger.isSome
  | .view => do return .controller role ((← Act.read Stage.triggersCell).isCancelled role.config.context)
  | .startWorkload => do return .ofFailure (← (c.workload.start c.view).run)
  | .stopWorkload => do return .ofFailure (← (c.workload.stop c.view).run)
  | .job => do return .job (← (lookAtJob i : Act World JobView))
  | .unknown step => return .unknown step
where
  c : Controller World Unit String :=
    role.controller i (Memory.gateway machineCell) (Memory.terminator machineCell) binary

/-! ## Steps side by side -/

inductive Step
  | machine (step : MachineStep)
  | controller (number : Nat) (step : ControllerStep)
  /-- A step, and others beside it, each some time after the one before. -/
  | withEvents (action : Step) (events : List (Nat × Step))

instance : Inhabited Step := ⟨.machine .stopTimeout⟩

/-- A task with the time it ended. -/
def timed {α : Type} (t : Task World α) : Task World (Nat × α) := do
  let a ← t
  return (← Act.now, a)

mutual

def Step.perform (roles : List Role) (binary : RunningBinary) : Step → Task World Outcome
  | .machine step => step.perform
  | .controller number step =>
    match roles[number]? with
    | none => return .noController
    | some role => step.perform role number binary
  | .withEvents action events => do
    let ((doneAt, outcome), others) ← Task.both (timed (action.perform roles binary)) (performAll roles binary events)
    return .events outcome doneAt others

/-- Takes steps one after another, each some time after the one before. -/
def performAll (roles : List Role) (binary : RunningBinary) : List (Nat × Step) → Task World (List (Nat × Outcome))
  | [] => return []
  | (delay, step) :: rest => do
    Task.sleep delay
    let outcome ← timed (step.perform roles binary)
    return outcome :: (← performAll roles binary rest)

end

/-! ## Whole scenarios -/

/-- What there is to see after a step. -/
structure Snapshot where
  outcome : Outcome
  now : Nat
  /-- What happened in this step. -/
  operations : List Memory.Operation
  reports : List StatusReport
  terminated : List Nat
  /-- What is held, and what there is, after it. -/
  openSessions : Nat
  openEntries : Nat
  installed : List String
  logSources : List String

structure Final where
  openSessions : Nat
  openEntries : Nat
  services : List (String × Option Memory.Service)

/-- The names in order and each once. -/
def knownNames (names : List String) : List String :=
  (names.mergeSort fun a b => a ≤ b).eraseReps

/-- Takes a step and looks at what has happened since the step before. -/
def play (roles : List Role) (binary : RunningBinary) (known : List String) (step : Step) (s : Scene World) :
    Snapshot × Scene World :=
  let before := machineCell.get s.world
  let (outcome, after) := playStep (step.perform roles binary) s
  let m := machineCell.get after.world
  let snapshot := {
    outcome
    now := after.now
    operations := m.operations
    reports := (m.reports.take (m.reports.length - before.reports.length)).reverse
    terminated := (m.terminated.take (m.terminated.length - before.terminated.length)).reverse
    openSessions := m.openSessions
    openEntries := m.openEntries
    installed := known.filter m.isInstalled
    logSources := known.filter m.hasLogSource }
  (snapshot, { after with world := machineCell.set { m with history := [] } after.world })

def playAll (roles : List Role) (binary : RunningBinary) (known : List String) :
    List Step → Scene World → List Snapshot × Scene World
  | [], s => ([], s)
  | step :: steps, s =>
    let (snapshot, s) := play roles binary known step s
    let (snapshots, s) := playAll roles binary known steps s
    (snapshot :: snapshots, s)

/-- Gives back all that is held, and looks at every service. -/
def conclude (known : List String) : Act World Final := do
  for session in (← Act.read benchCell).sessions do
    let _ ← dropSession session
  let services ← known.mapM fun name => do return (name, ← lookAtService name)
  let m ← Act.read machineCell
  return ⟨m.openSessions, m.openEntries, services⟩

/-- Plays a scenario from an empty manager: what is seen after each step and at the end, and the journal. -/
def run (roles : List Role) (names : List String) (binary : RunningBinary) (steps : List Step) :
    List Snapshot × Final × Journal :=
  let (roles, actors, triggers) := Role.cast roles
  let known := knownNames (names ++ roles.map (·.config.name))
  let (snapshots, s) := playAll roles binary known steps { world := { manager := {}, actors, triggers } }
  let (final, s) := (conclude known).run s
  (snapshots, final, s.journal.reverse)

end ServiceControl.Scenario.Shared
