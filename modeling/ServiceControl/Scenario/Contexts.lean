import ServiceControl.Shutdown
/-!
# Scenarios of contexts

Contexts are made, waited for and cancelled.  There is at most one trigger at hand; a new one takes its place.
-/
namespace ServiceControl.Scenario.Contexts

open Shutdown (Context Channels)

structure World where
  channels : Channels := {}
  contexts : List Context := [.never]
  trigger : Option Nat := none

def channelsCell : Cell World Channels := ⟨(·.channels), fun cs w => { w with channels := cs }⟩

inductive Step
  | new
  | never
  | clone (i : Nat)
  | cancel
  | dropTrigger
  /-- Waits for a context at most some time; meanwhile the trigger is fired after a time, and let go of after another. -/
  | wait (i ms : Nat) (cancelAfter dropAfter : Option Nat)

inductive Outcome
  | index (i : Nat)
  | flag (value : Bool)
  | waited (cancelled : Bool) (ms : Nat)

/-- Adds a context. -/
def addContext (c : Context) : Act World Outcome := do
  let i := (← get).world.contexts.length
  modify fun s => { s with world := { s.world with contexts := s.world.contexts ++ [c] } }
  return .index i

/-- Fires the trigger at hand, if there is one. -/
def fire : Act World Bool := do
  match (← get).world.trigger with
  | none => return false
  | some trigger =>
    Act.update channelsCell (·.fire trigger)
    return true

/-- Lets go of the trigger at hand, if there is one. -/
def letGo : Act World Bool := do
  match (← get).world.trigger with
  | none => return false
  | some trigger =>
    Act.update channelsCell (·.letGo trigger)
    modify fun s => { s with world := { s.world with trigger := none } }
    return true

def contextAt (i : Nat) : Act World Context := do return (← get).world.contexts[i]?.getD .never

/-- Waits for a context at most some time: whether it was cancelled, and how long the wait took. -/
def waitFor (i ms : Nat) : Task World Outcome := do
  let begun ← Act.now
  let context ← (contextAt i : Act World Context)
  let ended ← Task.within ms (Shutdown.untilCancelled channelsCell context)
  return .waited ended.isSome ((← Act.now) - begun)

/-- What goes on during a wait. -/
def meddle (cancelAfter dropAfter : Option Nat) : Task World Unit := do
  if let some ms := cancelAfter then
    Task.sleep ms
    let _ ← (fire : Act World Bool)
  if let some ms := dropAfter then
    Task.sleep ms
    let _ ← (letGo : Act World Bool)

def Step.perform : Step → Task World Outcome
  | .new => do
    let trigger ← Act.takeFrom channelsCell Channels.create
    let _ ← (letGo : Act World Bool)
    modify fun s => { s with world := { s.world with trigger := some trigger } }
    addContext (.of trigger)
  | .never => addContext .never
  | .clone i => do addContext (← (contextAt i : Act World Context))
  | .cancel => do return .flag (← fire)
  | .dropTrigger => do return .flag (← letGo)
  | .wait i ms cancelAfter dropAfter => do
    return (← Task.both (waitFor i ms) (meddle cancelAfter dropAfter)).1

/-- What there is to see after a step: its outcome, the time, and which contexts are cancelled. -/
structure Snapshot where
  outcome : Option Outcome
  now : Nat
  cancelled : List Bool

instance : Background World := .still World

def play : List Step → Scene World → List Snapshot
  | [], _ => []
  | step :: steps, s =>
    let (outcome, s) := Task.finish step.perform s
    ⟨outcome, s.now, s.world.contexts.map s.world.channels.triggers.isCancelled⟩ :: play steps s

def run (steps : List Step) : List Snapshot := play steps { world := {} }

end ServiceControl.Scenario.Contexts
