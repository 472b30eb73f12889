import ServiceControl.Memory.Service
import ServiceControl.Report
/-!
# The memory manager

A service manager without an operating system: entries, processes, log sources, recovery actions and the delivery of
signals are kept in a value.  It counts the sessions and entries that are held, keeps what it was asked, and can be told to
refuse.
-/
namespace ServiceControl.Memory

/-- What a manager can be asked. -/
inductive Operation
  | connect
  | openEntry
  | create
  | query
  | start
  | control
  | setRecovery
  | delete
  | registerLogSource
  | removeLogSource
  | dispatch
  deriving DecidableEq, Repr, Inhabited

def Operation.name : Operation → String
  | connect => "connect"
  | openEntry => "open"
  | create => "create"
  | query => "query"
  | start => "start"
  | control => "control"
  | setRecovery => "set_recovery_action"
  | delete => "delete"
  | registerLogSource => "register_log_source"
  | removeLogSource => "remove_log_source"
  | dispatch => "dispatch"

/-- What a manager remembers, in order: what it was asked and whether it agreed to hold something, and what was given
back. -/
inductive Event
  | asked (operation : Operation)
  | sessionOpened
  | entryOpened
  | entryClosed
  | sessionClosed
  deriving DecidableEq, Repr, Inhabited

structure Machine where
  services : NameMap Service := []
  logSources : List String := []
  /-- Refusals. -/
  deniesAccess : Bool := false
  failsLogRegistration : Bool := false
  failsLogRemoval : Bool := false
  failsDelete : Bool := false
  /-- What the next dispatch fails with. -/
  dispatchFault : Option String := none
  stopBehavior : StopBehavior := .after 250
  stopTimeout : Nat := 20000
  nextPid : Nat := 1000
  openSessions : Nat := 0
  openEntries : Nat := 0
  /-- The latest first. -/
  history : List Event := []
  /-- The processes ended by force, the latest first. -/
  terminated : List Nat := []
  /-- The signals for the next dispatched control loop. -/
  script : List ControlSignal := []
  /-- What control loops have reported, the latest first. -/
  reports : List StatusReport := []
  deriving Repr, Inhabited

/-- What is asked of the machine, which may refuse. -/
abbrev Ask := ExceptT ServiceError (StateM Machine)

namespace Machine

/-- What the machine was asked, in order. -/
def operations (m : Machine) : List Operation :=
  m.history.reverse.filterMap fun
    | .asked operation => some operation
    | _ => none

def isInstalled (m : Machine) (name : String) : Bool := m.services.has name

def hasLogSource (m : Machine) (name : String) : Bool := m.logSources.contains name

end Machine

def remember (e : Event) : Ask Unit := modify fun m => { m with history := e :: m.history }

def record (operation : Operation) : Ask Unit := remember (.asked operation)

/-! ## Sessions and entries -/

def connect : Ask Unit := do
  record .connect
  if (← get).deniesAccess then throw .permissionDenied
  modify fun m => { m with openSessions := m.openSessions + 1, history := .sessionOpened :: m.history }

def closeSession : StateM Machine Unit :=
  modify fun m => { m with openSessions := m.openSessions - 1, history := .sessionClosed :: m.history }

/-- Holds an entry, which is known by its name. -/
def holdEntry (name : String) : Ask String := do
  modify fun m => { m with openEntries := m.openEntries + 1, history := .entryOpened :: m.history }
  return name

def closeEntry : StateM Machine Unit :=
  modify fun m => { m with openEntries := m.openEntries - 1, history := .entryClosed :: m.history }

def openEntry (name : String) : Ask String := do
  record .openEntry
  if !(← get).isInstalled name then throw (.notInstalled name)
  holdEntry name

def create (spec : ServiceSpec) : Ask String := do
  record .create
  if (← get).isInstalled spec.name then throw (.alreadyExists spec.name)
  modify fun m => { m with services := m.services.put spec.name { spec } }
  holdEntry spec.name

/-! ## Services -/

def putService (name : String) (s : Service) : Ask Unit := modify fun m => { m with services := m.services.put name s }

/-- The service under a name, up to date. -/
def touch (operation : Operation) (now : Nat) (name : String) : Ask Service := do
  record operation
  let m ← get
  match m.services.find? name with
  | none => throw (.notInstalled name)
  | some s =>
    let s := s.refresh now m.stopBehavior
    putService name s
    return s

def query (now : Nat) (name : String) : Ask ServiceStatus := do return (← touch .query now name).status

def alreadyRunning : ServiceError := .manager "An instance of the service is already running"

def notStarted : ServiceError := .manager "The service has not been started"

def notValid : ServiceError := .controlRejected "The requested control is not valid for this service"

def notAccepted (signal : ControlSignal) (name : String) : ServiceError :=
  .controlRejected s!"{signal.name} is not accepted by {name}"

def markedForDeletion : ServiceError := .manager "The specified service has already been marked for deletion"

/-- Starts a process with the next process id. -/
def start (now : Nat) (name : String) : Ask Unit := do
  let s ← touch .start now name
  if s.phase ≠ .stopped then throw alreadyRunning
  let pid := (← get).nextPid
  modify fun m => { m with nextPid := pid + 1 }
  putService name { s with phase := .running pid, starts := s.starts + 1 }

/-- Asks a running service to stop. -/
def requestStop (now : Nat) (name : String) (s : Service) : Ask ServiceStatus := do
  let behavior := (← get).stopBehavior
  match s.phase with
  | .stopped => throw notStarted
  | .stopping .. => throw notValid
  | .running pid =>
    if behavior = .reject then throw notValid
    let s := { s with phase := (Phase.stopping pid now).refresh now behavior }
    putService name s
    return s.status

def control (now : Nat) (name : String) (signal : ControlSignal) : Ask ServiceStatus := do
  let s ← touch .control now name
  match signal with
  | .interrogate => return s.status
  | .stop => requestStop now name s
  | signal => throw (notAccepted signal s.spec.name)

def setRecovery (now : Nat) (name : String) (action : RecoveryAction) : Ask Unit := do
  let s ← touch .setRecovery now name
  putService name { s with recovery := action }

def delete (name : String) : Ask Unit := do
  record .delete
  let m ← get
  if m.failsDelete then throw markedForDeletion
  if !m.isInstalled name then throw (.notInstalled name)
  modify fun m => { m with services := m.services.erase name }

/-- The service under a name as it is now, told without asking the manager. -/
def service (now : Nat) (name : String) : StateM Machine (Option Service) := do
  let m ← get
  match m.services.find? name with
  | none => return none
  | some s =>
    let s := s.refresh now m.stopBehavior
    set { m with services := m.services.put name s }
    return some s

/-! ## Processes and log sources -/

/-- Ends the process with an id by force. -/
def terminate (pid : Nat) : Ask Unit := do
  match List.find? (fun entry => entry.2.hasProcess pid) (← get).services with
  | none => throw (.processNotFound pid)
  | some (name, s) =>
    putService name { s with phase := .stopped }
    modify fun m => { m with terminated := pid :: m.terminated }

def logSourceExists (name : String) : ServiceError := .manager s!"Application\\{name} registry key already exists"

def logSourceStays (name : String) : ServiceError := .manager s!"Application\\{name} registry key cannot be deleted"

def registerLogSource (name : String) : Ask Unit := do
  record .registerLogSource
  let m ← get
  if m.failsLogRegistration || m.hasLogSource name then throw (logSourceExists name)
  modify fun m => { m with logSources := name :: m.logSources }

def removeLogSource (name : String) : Ask Unit := do
  record .removeLogSource
  let m ← get
  if m.failsLogRemoval || !m.hasLogSource name then throw (logSourceStays name)
  modify fun m => { m with logSources := m.logSources.filter (· ≠ name) }

/-! ## Dispatching -/

/-- Takes the signals for the next control loop. -/
def takeScript : Ask (List ControlSignal) := do
  record .dispatch
  let script := (← get).script
  modify fun m => { m with script := [] }
  return script

/-- Takes what the dispatch is to fail with. -/
def takeFault : Ask Unit := do
  let fault := (← get).dispatchFault
  modify fun m => { m with dispatchFault := none }
  match fault with
  | some reason => throw (.dispatch reason)
  | none => return

def keepReport (report : StatusReport) : StateM Machine Unit :=
  modify fun m => { m with reports := report :: m.reports }

end ServiceControl.Memory
