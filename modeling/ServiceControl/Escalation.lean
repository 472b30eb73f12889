import ServiceControl.Signal
import ServiceControl.Status
import ServiceControl.Task
import ServiceControl.Text.Duration
/-!
# Bounded stops

A service is asked to stop, looked at every hundred milliseconds, and its process terminated when it does not stop in
time: the grace is the stop timeout and two intervals more.  A service that rejects the request is terminated at once and
then waited for in the same way.  After a termination at the deadline the service is not looked at again.  Main
statement: no look comes after the deadline (`LooksFirst.tick_le`), so that a watch comes to its end.
-/
namespace ServiceControl

inductive StopOutcome
  | graceful
  /-- It rejected the request and was terminated. -/
  | rejected
  /-- It did not stop in time and was terminated. -/
  | terminated
  deriving DecidableEq, Repr, Inhabited

def StopOutcome.name : StopOutcome → String
  | graceful => "Graceful"
  | rejected => "Rejected"
  | terminated => "Terminated"

/-- Which comes first when a look at the service and the deadline fall on one instant: nothing settles this. -/
inductive Tie
  | look
  | deadline
  deriving DecidableEq, Repr, Inhabited

/-- What a stop needs of a service and its process. -/
structure StopTarget (γ : Type) where
  control : ControlSignal → Call γ ServiceStatus
  query : Call γ ServiceStatus
  terminate : Nat → Call γ Unit

namespace StopTarget

variable {γ : Type}

/-- The milliseconds from one look to the next. -/
def interval : Nat := 100

/-- The milliseconds from the request to the deadline. -/
def grace (timeout : Nat) : Nat := timeout + 2 * interval

/-- A look that is due comes before the deadline if that has not come yet, and maybe if both are due at one instant. -/
def LooksFirst (tie : Tie) (tick deadline now : Nat) : Prop :=
  tick ≤ now ∧ (now < deadline ∨ tick = deadline ∧ tie = .look)

instance (tie : Tie) (tick deadline now : Nat) : Decidable (LooksFirst tie tick deadline now) :=
  inferInstanceAs (Decidable (_ ∧ _))

theorem LooksFirst.tick_le {tie : Tie} {tick deadline now : Nat} (first : LooksFirst tie tick deadline now) :
    tick ≤ deadline := by
  obtain ⟨due, before | ⟨together, -⟩⟩ := first
  · exact Nat.le_of_lt (Nat.lt_of_le_of_lt due before)
  · exact Nat.le_of_eq together

/-- Terminates the process; a failure is told and no more. -/
def kill (target : StopTarget γ) (pid : Nat) : Act γ Unit := do
  if let .error e ← (target.terminate pid).run then
    Act.warn s!"Failed to terminate process {pid}: {e.message}"

/-- Asks the service to stop.  One that rejects this is looked at and terminated. -/
def request (target : StopTarget γ) : Call γ (StopOutcome × ServiceStatus) := do
  match ← attempt (target.control .stop) with
  | .ok status => return (.graceful, status)
  | .error e =>
    if !e.isControlRejection then throw e
    Act.warn s!"Stop control rejected ({e.message}), terminating the service process"
    let status ← target.query
    target.kill status.processId
    return (.rejected, status)

/-- Waits for the next look or the deadline, whichever comes first: looks at the service and goes on, or terminates it. -/
def watch (target : StopTarget γ) (tie : Tie) (timeout deadline : Nat) (outcome : StopOutcome) (tick : Nat)
    (status : ServiceStatus) : Op γ StopOutcome :=
  if status.state = .stopped then do
    Act.info s!"Service stopped ({outcome.name})"
    return outcome
  else do
    (Task.await ((Wait.till tick).or (.till deadline)) : Task γ Unit)
    let now ← Act.now
    if _first : LooksFirst tie tick deadline now then
      let status ← target.query
      Act.debug s!"Waiting for stop, state {status.state.label}"
      watch target tie timeout deadline outcome (tick + interval) status
    else
      Act.warn s!"Service did not stop within {Text.duration timeout}, terminating process {status.processId}"
      target.kill status.processId
      return .terminated
termination_by deadline + 1 - tick
decreasing_by
  have reached : tick ≤ deadline := _first.tick_le
  unfold interval
  omega

def stopAndWait (target : StopTarget γ) (tie : Tie) (timeout : Nat) : Op γ StopOutcome := do
  let (outcome, status) ← target.request
  let now ← Act.now
  target.watch tie timeout (now + grace timeout) outcome (now + interval) status

end StopTarget

end ServiceControl
