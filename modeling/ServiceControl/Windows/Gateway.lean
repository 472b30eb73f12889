import ServiceControl.Windows.Manager
import ServiceControl.Windows.Registry
/-!
# Windows as a gateway

A control loop that is dispatched waits in a slot until the dispatcher calls the entry point of the service, which takes
it from there, registers a control handler and runs it on a clock of its own.  A loop is run by the first call of the
entry point that finds it, and one that is not called for is taken out again when the dispatcher returns.  It does not
return while a loop runs, so that a dispatch of a loop that never ends waits for good.
-/
namespace ServiceControl.Windows

variable {γ : Type}

/-- The signal that the handler passes on for a control; it does not know any other. -/
def signalOf? (control : Nat) : Option ControlSignal :=
  if control = Code.stopControl then some .stop
  else if control = Code.shutdownControl then some .shutdown
  else if control = Code.interrogateControl then some .interrogate
  else none

def answerTo (control : Nat) : Nat := if (signalOf? control).isSome then Code.handled else Code.notImplemented

/-- After this control Windows sends no other, and the handler is gone. -/
def isLast (control : Nat) : Bool :=
  control = Code.stopControl || control = Code.shutdownControl || control = Code.preshutdownControl

/-- The controls up to the last one that is sent. -/
def upToLast : List Nat → List Nat
  | [] => []
  | c :: cs => if isLast c then [c] else c :: upToLast cs

/-- The controls that a service gets: those of the script, and a stop at the end. -/
def Machine.sent (m : Machine) : List Nat := upToLast (m.controls ++ [Code.stopControl])

def acceptMask (signals : List ControlSignal) : Nat :=
  (if .stop ∈ signals then Code.acceptStop else 0) + (if .shutdown ∈ signals then Code.acceptShutdown else 0)

/-- A report as a status record; a state without a name has none. -/
def statusRecord? (r : StatusReport) : Option StatusRecord :=
  match r.state with
  | .other _ => none
  | state =>
    let (win32Exit, serviceExit) := match r.exitCode with
      | .win32 code => (code, 0)
      | .service code => (Code.serviceSpecificError, code)
    some ⟨state.code, acceptMask r.accepts, win32Exit, serviceExit⟩

/-- Once the service has reported that it runs, Windows sends its controls. -/
def deliver (cell : Cell γ Machine) (record : StatusRecord) : Act γ Unit :=
  Act.update cell fun m =>
    if m.armed && record.state = RuntimeState.running.code then
      { m with armed := false, calls := (m.sent.map fun c => Call.handler c (answerTo c)).reverse ++ m.calls }
    else m

/-- Reports to Windows; a failure is told and no more. -/
def report (cell : Cell γ Machine) (r : StatusReport) : Act γ Unit := do
  match statusRecord? r with
  | none => return
  | some record =>
    let reply ← (request cell .setStatus (.setStatus record)).run
    deliver cell record
    if let .error f := reply then
      Act.warn s!"Failed to report service status {r.state.name}: {f.message}"

def registerHandler (cell : Cell γ Machine) (name : String) : ServiceControl.Call γ Unit :=
  explained (·.during "register service control handler") do
    let checked ← (terminated (.nul "service name") name : Except Fault String)
    let _ ← request cell .registerHandler (.registerHandler checked)
    Act.update cell fun m => { m with armed := true }

/-- Runs the control loop of a service with the controls that Windows sends, on a clock of its own. -/
def runService [Background γ] (cell : Cell γ Machine) (loop : ControlLoop γ) : Op γ Unit := do
  registerHandler cell loop.name
  Act.info s!"Service {loop.name} dispatched by the service manager"
  let signals := (← Act.read cell).sent.filterMap signalOf?
  Task.apart (loop.run (report cell) (Inbox.ready (← Act.now) signals))

/-- The entry point of the service: of all loops, by the number of their dispatch, it runs the one that waits, if one still
does. -/
def entryPoint [Background γ] (cell : Cell γ Machine) (loops : Nat → ControlLoop γ) : Task γ Unit := do
  match (← Act.read cell).pending with
  | none => Act.error "Service entry point called without a pending control loop"
  | some number =>
    Act.update cell fun m => { m with pending := none, served := number :: m.served }
    if let .error e ← (runService cell (loops number)).run then
      Act.error s!"Service failed: {e.message}"

def callEntryPoint [Background γ] (cell : Cell γ Machine) (loops : Nat → ControlLoop γ) : Nat → Task γ Unit
  | 0 => return
  | n + 1 => do
    entryPoint cell loops
    callEntryPoint cell loops n

/-- Starts the dispatcher, which calls the entry point and then replies. -/
def startDispatcher [Background γ] (cell : Cell γ Machine) (name : String) (loops : Nat → ControlLoop γ) :
    ExceptT Fault (Task γ) Unit := do
  let checked ← (terminated (.nul "service name") name : Except Fault String)
  let reply ← attempt (request cell .startDispatcher (.startDispatcher checked))
  let usual := match reply with | .ok _ => 1 | .error _ => 0
  callEntryPoint cell loops ((← Act.read cell).mainCalls.getD usual)
  let _ ← (reply : Except Fault Reply)

/-- Dispatches the next of the loops. -/
def dispatchNext [Background γ] (cell : Cell γ Machine) (name : String) (loops : Nat → ControlLoop γ) : Op γ Unit := do
  Act.update cell fun m => { m with pending := some m.dispatches, dispatches := m.dispatches + 1 }
  let result ← (startDispatcher cell name loops).run
  Act.update cell fun m => { m with pending := none }
  match result with
  | .ok () => return
  | .error f => throw (.dispatch f.message)

/-- A dispatch where no loop is at hand but the one that is dispatched. -/
def dispatch [Background γ] (cell : Cell γ Machine) (name : String) (loop : ControlLoop γ) : Op γ Unit :=
  dispatchNext cell name fun _ => loop

def gateway [Background γ] (cell : Cell γ Machine) : Gateway γ Handle Handle where
  connect := connect cell
  openEntry := openService cell
  create := createService cell
  query := query cell
  start := start cell
  control := control cell
  setRecovery := setRecovery cell
  delete := delete cell
  closeEntry := closeHandle cell
  closeSession := closeHandle cell
  registerLogSource := registerLogSource cell
  removeLogSource := removeLogSource cell
  stopTimeout := stopTimeout cell
  dispatch := dispatch cell

end ServiceControl.Windows
