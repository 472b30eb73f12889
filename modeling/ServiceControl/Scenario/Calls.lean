import ServiceControl.Scenario.Outcome
import ServiceControl.Scripted.Gateway
/-!
# Scenarios over a scripted gateway

Orders to one controller, and single stops, with every call that they make.
-/
namespace ServiceControl.Scenario.Calls

abbrev World := Stage Scripted.Machine

/-- The calls since the last look, in order. -/
def takeCalls (s : Scene World) : List (Nat × Scripted.Call) × Scene World :=
  (s.world.manager.calls.reverse,
    { s with world := { s.world with manager := { s.world.manager with calls := [] } } })

/-- What there is to see after an order. -/
structure Snapshot where
  outcome : Outcome
  now : Nat
  calls : List (Nat × Scripted.Call)
  openSessions : Nat
  openEntries : Nat

def play (role : Role) (binary : RunningBinary) : List Order → Scene World → List Snapshot × Scene World
  | [], s => ([], s)
  | order :: orders, s =>
    let c := role.controller 0 (Scripted.gateway Stage.managerCell) (Scripted.terminator Stage.managerCell) binary
    let (outcome, s) := playStep (order.perform c) s
    let (calls, s) := takeCalls s
    let (snapshots, last) := play role binary orders s
    (⟨outcome, s.now, calls, s.world.manager.sessions.length, s.world.manager.entries.length⟩ :: snapshots, last)

/-- Carries out orders over a gateway with a script. -/
def run (role : Role) (script : Scripted.Machine) (binary : RunningBinary) (orders : List Order) :
    List Snapshot × Journal :=
  let (snapshots, s) := play role binary orders { world := { manager := script, actors := [{ job := role.job }] } }
  (snapshots, s.journal.reverse)

/-- One bounded stop of a scripted entry: how it ended, its calls and the scene after it. -/
def stop (script : Scripted.Machine) (timeout : Nat) :
    Option (Except ServiceError StopOutcome) × List (Nat × Scripted.Call) × Scene World :=
  let g := Scripted.gateway (Stage.managerCell (G := Scripted.Machine))
  let target : StopTarget World := ⟨g.control 0, g.query 0, Scripted.terminator Stage.managerCell⟩
  let (outcome, s) := Task.finish (target.stopAndWait .look timeout).run { world := { manager := script } }
  let (calls, s) := takeCalls s
  (outcome, calls, s)

end ServiceControl.Scenario.Calls
