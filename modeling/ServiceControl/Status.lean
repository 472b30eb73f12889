/-!
# Runtime states

The state of a service as its manager tells it.  Four states have a name; every other keeps the code it was told by.
Main statement: the code of a state tells the state (`ofCode_code`).
-/
namespace ServiceControl

inductive RuntimeState
  | stopped
  | startPending
  | stopPending
  | running
  /-- A state without a name here, such as one on the way to or from a pause. -/
  | other (code : Nat)
  deriving DecidableEq, Repr, Inhabited

namespace RuntimeState

def code : RuntimeState → Nat
  | stopped => 1
  | startPending => 2
  | stopPending => 3
  | running => 4
  | other code => code

def ofCode : Nat → RuntimeState
  | 1 => stopped
  | 2 => startPending
  | 3 => stopPending
  | 4 => running
  | code => other code

@[simp] theorem code_ofCode (n : Nat) : (ofCode n).code = n := by
  unfold ofCode
  split <;> rfl

/-- **The code of a state tells the state**, as long as no unnamed one carries the code of a named one. -/
theorem ofCode_code {s : RuntimeState} (h : ∀ n, s = other n → n = 0 ∨ 4 < n) : ofCode s.code = s := by
  cases s with
  | other n =>
    match n, h n rfl with
    | 0, _ => rfl
    | n + 5, _ => rfl
  | _ => rfl

/-- The word for a state; a state without one is told by its code. -/
def label : RuntimeState → String
  | running => "Running"
  | stopPending => "StopPending"
  | stopped => "Stop"
  | s => toString s.code

/-- The name of a state in a log line. -/
def name : RuntimeState → String
  | stopped => "Stopped"
  | startPending => "StartPending"
  | stopPending => "StopPending"
  | running => "Running"
  | other code => s!"Other({code})"

end RuntimeState

/-- What a query of a service tells. -/
structure ServiceStatus where
  state : RuntimeState
  /-- Zero for a service that has no process. -/
  processId : Nat
  deriving DecidableEq, Repr, Inhabited

def ServiceStatus.stopped : ServiceStatus := ⟨.stopped, 0⟩

end ServiceControl
