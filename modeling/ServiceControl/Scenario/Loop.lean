import ServiceControl.Memory.Gateway
import ServiceControl.Scenario.Outcome
/-!
# Scenarios of one control loop

A control loop on its own, over a memory manager in which nothing is installed.
-/
namespace ServiceControl.Scenario.Loop

abbrev World := Stage Memory.Machine

structure Setup where
  config : ServiceConfig
  workload : Workload.Scripted := {}
  /-- What lies in the error box before. -/
  errors : ErrorBox := {}
  /-- The signals, each with its delay after the one before. -/
  signals : List (Nat × ControlSignal) := []
  /-- The inbox is not closed after the last signal. -/
  staysOpen : Bool := false
  deniesAccess : Bool := false
  /-- The loop is given up after this time. -/
  limit : Nat := 3600000

/-- The signals with the times of their arrival. -/
def arrivals (since : Nat) : List (Nat × ControlSignal) → List (Nat × ControlSignal)
  | [] => []
  | (delay, signal) :: rest => (since + delay, signal) :: arrivals (since + delay) rest

def Setup.inbox (s : Setup) : Inbox :=
  let signals := arrivals 0 s.signals
  ⟨signals, if s.staysOpen then none else some ((signals.getLast?.map (·.1)).getD 0)⟩

def Setup.loop (s : Setup) : ControlLoop World :=
  ⟨Workload.scripted (Stage.scriptedCell 0), (Memory.gateway Stage.managerCell).view s.config, Stage.errorsCell 0⟩

/-- Runs the loop: how it ended, unless it was given up, and the scene after it. -/
def run (s : Setup) : Option LoopExit × Scene World :=
  let start : Scene World := { world := {
    manager := { deniesAccess := s.deniesAccess }
    actors := [{ job := .scripted s.workload, errors := s.errors }] } }
  let (exit, after) := (Task.within s.limit (s.loop.run Stage.keepReport s.inbox)).finish start
  (exit.join, after)

end ServiceControl.Scenario.Loop
