import ServiceControl.Memory.Service
import ServiceControl.Scenario.Stage
/-!
# Outcomes

What a step of a scenario comes to.
-/
namespace ServiceControl.Scenario

/-- What there is to see of a workload. -/
inductive JobView
  | scripted (starts stops : Nat) (seen : List Workload.Sighting)
  | heartbeat (beats : Nat) (running : Bool)
  deriving Inhabited

inductive Outcome
  | done
  | flag (value : Bool)
  | text (text : String)
  | status (status : ServiceStatus)
  | service (service : Option Memory.Service)
  | job (view : JobView)
  /-- The controller of a number, and whether its context is cancelled. -/
  | controller (role : Role) (cancelled : Bool)
  | refused (e : ServiceError)
  | failed (failure : Failure)
  /-- The step did not come to its end. -/
  | pending
  | noHandle
  | noController
  | unknown (step : String)
  /-- A step with what went on beside it, each with the time it ended. -/
  | events (action : Outcome) (doneAt : Nat) (others : List (Nat × Outcome))
  deriving Inhabited

namespace Outcome

def ofUnit : Except ServiceError Unit → Outcome
  | .ok () => done
  | .error e => refused e

def ofStatus : Except ServiceError ServiceStatus → Outcome
  | .ok s => status s
  | .error e => refused e

def ofFailure : Except Failure Unit → Outcome
  | .ok () => done
  | .error f => failed f

end Outcome

/-- What a controller can be told to do. -/
inductive Order
  | install
  | uninstall
  | start
  | stop
  | restart
  | run
  | status
  deriving DecidableEq, Repr, Inhabited

variable {G S E : Type}

/-- Has a controller carry out an order. -/
def Order.perform (c : Controller (Stage G) S E) : Order → Task (Stage G) Outcome
  | .install => do return .ofUnit (← c.install.run)
  | .uninstall => do return .ofUnit (← c.uninstall.run)
  | .start => do return .ofUnit (← c.start.run)
  | .stop => do return .ofUnit (← c.stop.run)
  | .restart => do return .ofUnit (← c.restart.run)
  | .run => do return .ofUnit (← c.run.run)
  | .status => do return .text (← c.status)

/-- What there is to see of the workload of a number; what a scripted one has seen is told once. -/
def lookAtJob (i : Nat) : Act (Stage G) JobView := do
  match (← Act.read (Stage.actorCell i)).job with
  | .scripted s =>
    Act.write (Stage.scriptedCell i) { s with seen := [] }
    return .scripted s.starts s.stops s.seen.reverse
  | .heartbeat h => return .heartbeat h.beats h.isRunning

/-- Runs a step to its end. -/
def playStep {G : Type} (step : Task (Stage G) Outcome) (s : Scene (Stage G)) : Outcome × Scene (Stage G) :=
  let (outcome, after) := step.finish s
  (outcome.getD .pending, after)

end ServiceControl.Scenario
