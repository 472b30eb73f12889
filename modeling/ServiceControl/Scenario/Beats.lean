import ServiceControl.Scenario.Stage
/-!
# Scenarios of one heartbeat

A heartbeat is started and stopped, where tasks can run and where they cannot, and time goes by.
-/
namespace ServiceControl.Scenario.Beats

open Workload (Heartbeat)

abbrev World := Stage Unit

inductive Step
  | start
  | stop
  | startOutside
  | stopOutside
  | sleep (ms : Nat)

def cell : Cell World Heartbeat := Stage.heartbeatCell 0

/-- A view of a service that nobody manages. -/
def view (config : ServiceConfig) : View World := ⟨config, pure ""⟩

def Step.perform (config : ServiceConfig) : Step → Task World Heartbeat.Outside
  | .start => do return .finished (← (Heartbeat.start cell (view config)).run)
  | .stop => do return .finished (← (Heartbeat.stop cell (view config)).run)
  | .startOutside => Heartbeat.startOutside cell (view config)
  | .stopOutside => Heartbeat.stopOutside cell (view config)
  | .sleep ms => do
    Task.sleep ms
    return .finished (.ok ())

structure Snapshot where
  outcome : Heartbeat.Outside
  beats : Nat
  running : Bool

def play (config : ServiceConfig) : List Step → Scene World → List Snapshot × Journal
  | [], s => ([], s.journal.reverse)
  | step :: steps, s =>
    let (outcome, s) := Task.finish (step.perform config) s
    let h := cell.get s.world
    let (snapshots, journal) := play config steps s
    (⟨outcome.getD .waiting, h.beats, h.isRunning⟩ :: snapshots, journal)

/-- Plays steps on a heartbeat of this interval. -/
def run (config : ServiceConfig) (interval : Nat) (steps : List Step) : List Snapshot × Journal :=
  play config steps { world := { manager := (), actors := [{ job := .heartbeat { interval } }] } }

end ServiceControl.Scenario.Beats
