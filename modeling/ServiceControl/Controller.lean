import ServiceControl.Escalation
import ServiceControl.Gateway
/-!
# The service controller

What can be done with one configured service: it is installed and uninstalled, started, stopped and restarted, told the
state of, and run.  Each operation holds its session and its entry no longer than it needs them.
-/
namespace ServiceControl

structure Controller (γ S E : Type) where
  gateway : Gateway γ S E
  workload : Workload γ
  config : ServiceConfig
  /-- The service runs in a session of a user, and not under its manager. -/
  interactive : Bool
  terminate : Nat → Call γ Unit
  /-- Sets up what an interactive run waits for besides its context. -/
  killSignal : Act γ (Wait γ) := pure .never
  errors : Cell γ ErrorBox
  triggers : Cell γ Shutdown.Triggers
  binary : RunningBinary
  tie : Tie := .look

/-- A kill signal that cannot be set up: that is told, and it never comes. -/
def unavailableKillSignal {γ : Type} (reason : String) : Act γ (Wait γ) := do
  Act.error s!"Failed to install termination signal handlers: {reason}"
  return .never

namespace Controller

variable {γ S E α : Type}

def name (c : Controller γ S E) : String := c.config.name

def view (c : Controller γ S E) : View γ := c.gateway.view c.config

def withSession (c : Controller γ S E) (use : S → Call γ α) : Call γ α :=
  holding c.gateway.connect c.gateway.closeSession use

/-- Uses the entry of the service, over time. -/
def withEntry (c : Controller γ S E) (use : E → Op γ α) : Op γ α :=
  holding (c.gateway.connect : Op γ S) (fun s => c.gateway.closeSession s) fun session =>
    holding (c.gateway.openEntry session c.name : Op γ E) (fun e => c.gateway.closeEntry e) use

/-- Registers the log source of a new entry.  If it is refused, the entry is deleted again. -/
def registerLogSource (c : Controller γ S E) (entry : E) : Call γ Unit := do
  match ← attempt (c.gateway.registerLogSource c.name) with
  | .ok () => return
  | .error e =>
    Act.warn s!"Event log source registration for {c.name} failed, removing the service entry"
    match ← attempt (c.gateway.delete entry) with
    | .ok () => throw (.logSourceRegistration c.name e.message)
    | .error rollback => throw (.rollbackFailed c.name e.message rollback.message)

def checkAbsent (c : Controller γ S E) (session : S) : Call γ Unit := do
  match ← attempt (c.gateway.openEntry session c.name) with
  | .ok entry =>
    c.gateway.closeEntry entry
    throw (.alreadyExists c.name)
  | .error (.notInstalled _) => return
  | .error e => throw e

def install (c : Controller γ S E) : Call γ Unit := do
  Act.info s!"Installing service {c.name}"
  c.withSession fun session => do
    c.checkAbsent session
    let spec ← ServiceSpec.ofConfig c.binary c.config
    holding (c.gateway.create session spec) c.gateway.closeEntry fun entry => do
      c.registerLogSource entry
      if c.config.restartOnFailure then
        if let .error e ← attempt (c.gateway.setRecovery entry .restartNow) then
          Act.warn s!"Failed to set restart on failure for {c.name}: {e.message}"
    Act.info s!"Service {c.name} installed ({spec.executable})"

def start (c : Controller γ S E) : Call γ Unit := do
  Act.info s!"Starting service {c.name}"
  c.withSession fun session =>
    holding (c.gateway.openEntry session c.name) c.gateway.closeEntry fun entry => do
      if c.config.restartOnFailure then c.gateway.setRecovery entry .restartNow
      c.gateway.start entry
  Act.info s!"Service {c.name} started"

/-- Stops the service behind an entry, which then is not restarted. -/
def stopEntry (c : Controller γ S E) (entry : E) : Op γ StopOutcome := do
  if c.config.restartOnFailure then c.gateway.setRecovery entry .none
  let timeout ← c.gateway.stopTimeout
  let target : StopTarget γ := ⟨c.gateway.control entry, c.gateway.query entry, c.terminate⟩
  target.stopAndWait c.tie timeout

/-- Stops the service, by force if it does not stop in time. -/
def stop (c : Controller γ S E) : Op γ Unit := do
  Act.info s!"Stopping service {c.name}"
  let outcome ← c.withEntry c.stopEntry
  Act.info s!"Service {c.name} stopped ({outcome.name})"

def restart (c : Controller γ S E) : Op γ Unit := do
  c.stop
  c.start

/-- Stops the service if it can be stopped, and deletes its entry and its log source. -/
def uninstall (c : Controller γ S E) : Op γ Unit := do
  Act.info s!"Uninstalling service {c.name}"
  c.withEntry fun entry => do
    if let .error e ← attempt (c.stopEntry entry) then
      Act.debug s!"Stop before uninstall of {c.name} failed: {e.message}"
    c.gateway.delete entry
  match ← attempt (c.gateway.removeLogSource c.name) with
  | .ok () => Act.info s!"Service {c.name} uninstalled"
  | .error e => throw (.logSourceRemoval c.name e.message)

/-- The word for the state of the service, or why it cannot be told. -/
def status (c : Controller γ S E) : Act γ String := c.gateway.status c.config

/-- Runs the workload under the manager.  A failure of the workload goes before one of the manager. -/
def runDispatched (c : Controller γ S E) : Op γ Unit := do
  let dispatched ← attempt (c.gateway.dispatch c.name ⟨c.workload, c.view, c.errors⟩)
  match ← Act.takeFrom c.errors ErrorBox.take with
  | some e => throw e
  | none => dispatched

/-- Runs the workload until the kill signal comes or the context is cancelled. -/
def runInteractive (c : Controller γ S E) : Op γ Unit := do
  Act.info s!"Running {c.name} interactively"
  Workload.asOp (c.workload.start c.view)
  let kill ← c.killSignal
  Task.await (kill.or (Shutdown.cancelled c.triggers c.config.context))
  if kill.isOver (← get) then Act.info "Termination signal received" else Act.info "Run context cancelled"
  Workload.asOp (c.workload.stop c.view)

def run (c : Controller γ S E) : Op γ Unit := do
  Act.update c.errors fun _ => ErrorBox.empty
  if c.interactive then c.runInteractive else c.runDispatched

end Controller

end ServiceControl
