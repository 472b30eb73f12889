/-!
# Service errors

Why an operation on a service failed.  Each cause is a constructor and `ServiceError.message` its wording.
-/
namespace ServiceControl

/-- The failure of a workload: what went wrong, and what was being done, innermost first. -/
structure Failure where
  cause : String
  contexts : List String := []
  deriving DecidableEq, Repr, Inhabited

/-- A failure is told by its outermost context. -/
def Failure.message (f : Failure) : String := f.contexts.getLastD f.cause

inductive ServiceError
  | permissionDenied
  | alreadyExists (name : String)
  | notInstalled (name : String)
  /-- The service takes no such signal in its present state. -/
  | controlRejected (reason : String)
  | workload (failure : Failure)
  /-- The log source was refused and the new entry deleted again. -/
  | logSourceRegistration (name reason : String)
  /-- The log source was refused, and so was deleting the new entry. -/
  | rollbackFailed (name reason rollback : String)
  /-- The entry is deleted but its log source stays. -/
  | logSourceRemoval (name reason : String)
  | processNotFound (pid : Nat)
  | dispatch (reason : String)
  | unsupportedPlatform (operation : String)
  /-- Any other refusal of the manager. -/
  | manager (reason : String)
  deriving DecidableEq, Repr, Inhabited

namespace ServiceError

def message : ServiceError → String
  | permissionDenied => "Permission denied: the service manager requires administrator privileges"
  | alreadyExists name => s!"Service {name} already exists"
  | notInstalled name => s!"Service {name} is not installed"
  | controlRejected reason => s!"Control request rejected: {reason}"
  | workload failure => failure.message
  | logSourceRegistration name reason => s!"Event log source registration failed for {name}: {reason}"
  | rollbackFailed name reason rollback =>
    s!"Event log source registration failed for {name}: {reason}; rollback of the service entry also failed: {rollback}"
  | logSourceRemoval name reason => s!"Event log source removal failed for {name}: {reason}"
  | processNotFound pid => s!"Process not found: {pid}"
  | dispatch reason => s!"Service dispatcher failed: {reason}"
  | unsupportedPlatform operation => s!"Unsupported operation on this platform: {operation}"
  | manager reason => s!"Service manager error: {reason}"

/-- The refusal after which a stop goes on by terminating the process. -/
def isControlRejection : ServiceError → Bool
  | controlRejected _ => true
  | _ => false

end ServiceError

end ServiceControl
