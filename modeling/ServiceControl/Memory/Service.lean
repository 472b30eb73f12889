import ServiceControl.NameMap
import ServiceControl.Spec
import ServiceControl.Status
/-!
# Services of the memory manager

A registered service and its simulated process.  A service that was asked to stop stops by itself some time after, but
only what looks at it finds that out: `refresh` brings it up to date.  Main statement: looking twice is looking once, at
the later instant (`refresh_refresh`).
-/
namespace ServiceControl.Memory

/-- What the process of a service does when it is asked to stop. -/
inductive StopBehavior
  /-- It stops after this time. -/
  | after (delay : Nat)
  /-- It goes on until it is terminated. -/
  | never
  /-- The manager rejects the request. -/
  | reject
  deriving DecidableEq, Repr, Inhabited

inductive Phase
  | stopped
  | running (pid : Nat)
  /-- Asked to stop at an instant, and not known to have stopped. -/
  | stopping (pid since : Nat)
  deriving DecidableEq, Repr, Inhabited

namespace Phase

def status : Phase → ServiceStatus
  | stopped => .stopped
  | running pid => ⟨.running, pid⟩
  | stopping pid _ => ⟨.stopPending, pid⟩

/-- The phase at an instant, of a process that does nothing but stop. -/
def refresh (now : Nat) : StopBehavior → Phase → Phase
  | .after delay, stopping pid since => if since + delay ≤ now then stopped else stopping pid since
  | _, p => p

/-- **Looking twice is looking once, at the later instant.** -/
theorem refresh_refresh {now later : Nat} (h : now ≤ later) (b : StopBehavior) (p : Phase) :
    (p.refresh now b).refresh later b = p.refresh later b := by
  cases b with
  | after delay =>
    cases p with
    | stopping pid since =>
      by_cases hs : since + delay ≤ now
      · simp [refresh, hs, Nat.le_trans hs h]
      · simp [refresh, hs]
    | _ => rfl
  | _ => rfl

end Phase

structure Service where
  spec : ServiceSpec
  recovery : RecoveryAction := .none
  /-- How often it was started. -/
  starts : Nat := 0
  phase : Phase := .stopped
  deriving DecidableEq, Repr, Inhabited

namespace Service

def status (s : Service) : ServiceStatus := s.phase.status

def refresh (now : Nat) (b : StopBehavior) (s : Service) : Service := { s with phase := s.phase.refresh now b }

/-- The process of the service has this id. -/
def hasProcess (pid : Nat) (s : Service) : Bool := pid ≠ 0 && s.status.processId == pid

end Service

end ServiceControl.Memory
