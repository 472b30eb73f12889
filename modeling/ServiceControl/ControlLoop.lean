import ServiceControl.ErrorBox
import ServiceControl.Report
import ServiceControl.Workload
/-!
# The control loop

One run of a service under a manager: the workload is started, and stopped once a signal asks for it.  Signals are taken
one at a time in the order of their arrival, and what has arrived earlier waits.  A closed inbox is a shutdown.  A failure
to start or to stop is kept in the error box and ends the run.
-/
namespace ServiceControl

/-- The signals to come, each with the instant of its arrival, and when the inbox closes after them, if ever. -/
structure Inbox where
  signals : List (Nat × ControlSignal) := []
  closes : Option Nat := none
  deriving Repr, Inhabited

/-- An inbox in which everything has arrived. -/
def Inbox.ready (now : Nat) (signals : List ControlSignal) : Inbox := ⟨signals.map (now, ·), some now⟩

inductive LoopExit
  | normal
  | startFailed
  | stopFailed
  deriving DecidableEq, Repr, Inhabited

namespace LoopExit

def code : LoopExit → Nat
  | normal => 0
  | startFailed => 1
  | stopFailed => 2

def isAbnormal (e : LoopExit) : Bool := e != normal

def exitCode : LoopExit → ExitCode
  | normal => .success
  | e => .service e.code

end LoopExit

structure ControlLoop (γ : Type) where
  workload : Workload γ
  view : View γ
  errors : Cell γ ErrorBox

namespace ControlLoop

variable {γ : Type}

def name (l : ControlLoop γ) : String := l.view.name

def fail (l : ControlLoop γ) (failure : Failure) : Act γ Unit := Act.update l.errors fun box => box.put (.workload failure)

def stopWorkload (l : ControlLoop γ) (report : StatusReport → Act γ Unit) (signal : ControlSignal) :
    Task γ LoopExit := do
  Act.info s!"Received {signal.name} for {l.name}"
  report (.pending .stopPending)
  match ← (l.workload.stop l.view).run with
  | .ok () => return .normal
  | .error failure =>
    Act.error s!"Service {l.name} failed to stop: {failure.message}"
    l.fail failure
    return .stopFailed

/-- Takes signals until one asks for the end. -/
def serve (l : ControlLoop γ) (report : StatusReport → Act γ Unit) (closes : Option Nat) :
    List (Nat × ControlSignal) → Task γ LoopExit
  | [] => do
    Task.await ⟨closes, fun _ => false⟩
    Act.warn s!"Control channel for {l.name} closed, shutting down"
    l.stopWorkload report .shutdown
  | (arrival, signal) :: signals => do
    Task.sleepUntil arrival
    match signal with
    | .stop | .shutdown => l.stopWorkload report signal
    | .interrogate =>
      report .running
      l.serve report closes signals
    | ignored =>
      Act.debug s!"Ignoring control {ignored.name} for {l.name}"
      l.serve report closes signals

/-- The run up to its last report. -/
def drive (l : ControlLoop γ) (report : StatusReport → Act γ Unit) (inbox : Inbox) : Task γ LoopExit := do
  report (.pending .startPending)
  match ← (l.workload.start l.view).run with
  | .error failure =>
    Act.error s!"Service {l.name} failed to start: {failure.message}"
    l.fail failure
    return .startFailed
  | .ok () =>
    report .running
    Act.info s!"Service {l.name} running"
    l.serve report inbox.closes inbox.signals

/-- Runs the service and reports its states. -/
def run (l : ControlLoop γ) (report : StatusReport → Act γ Unit) (inbox : Inbox) : Task γ LoopExit := do
  let exit ← l.drive report inbox
  report (.stopped exit.exitCode)
  Act.info s!"Service {l.name} stopped (exit code {exit.code})"
  return exit

end ControlLoop

end ServiceControl
