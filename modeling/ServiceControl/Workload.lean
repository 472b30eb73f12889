import ServiceControl.Config
/-!
# Workloads

The unit of work behind a service.  Starting it ends once it runs, and stopping it ends once it has shut down; either may
fail.  A workload sees of its service no more than a view.
-/
namespace ServiceControl

/-- What a workload sees of its service: the configuration, and how its manager tells its state. -/
structure View (γ : Type) where
  config : ServiceConfig
  status : Act γ String

namespace View

variable {γ : Type}

def name (v : View γ) : String := v.config.name

def display (v : View γ) : String := v.config.display

end View

/-- What a service manager has a workload do. -/
abbrev Callback (γ : Type) := ExceptT Failure (Task γ)

structure Workload (γ : Type) where
  start : View γ → Callback γ Unit
  stop : View γ → Callback γ Unit

namespace Workload

variable {γ : Type}

/-- A callback whose failure is one of the service. -/
def asOp (c : Callback γ Unit) : Op γ Unit := ExceptT.adapt ServiceError.workload c

end Workload

end ServiceControl
