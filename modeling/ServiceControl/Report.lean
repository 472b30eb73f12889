import ServiceControl.Signal
import ServiceControl.Status
/-!
# Status reports

What a running service tells its manager about itself.
-/
namespace ServiceControl

/-- The exit code of a stopped service: one of the system's or one of its own. -/
inductive ExitCode
  | win32 (code : Nat)
  | service (code : Nat)
  deriving DecidableEq, Repr, Inhabited

def ExitCode.success : ExitCode := .win32 0

structure StatusReport where
  state : RuntimeState
  /-- The signals that the service takes now. -/
  accepts : List ControlSignal
  exitCode : ExitCode
  deriving DecidableEq, Repr, Inhabited

namespace StatusReport

/-- On the way to another state a service takes no signal. -/
def pending (state : RuntimeState) : StatusReport := ⟨state, [], .success⟩

def running : StatusReport := ⟨.running, [.stop, .shutdown], .success⟩

def stopped (exitCode : ExitCode) : StatusReport := ⟨.stopped, [], exitCode⟩

end StatusReport

end ServiceControl
