import ServiceControl.CommandLine.Program
import ServiceControl.Controller
import ServiceControl.Memory.Gateway
import ServiceControl.Platform
import ServiceControl.Workload.Heartbeat
/-!
# Sessions

What goes on while the program runs its service: a heartbeat that beats until a signal ends the session.
-/
namespace ServiceControl.CommandLine

open Workload (Heartbeat)

inductive Termination
  | terminate
  | interrupt
  deriving DecidableEq, Repr, Inhabited

def Termination.name : Termination → String
  | terminate => "SIGTERM"
  | interrupt => "SIGINT"

structure Session where
  heartbeat : Heartbeat
  manager : Memory.Machine := {}
  errors : ErrorBox := {}
  triggers : Shutdown.Triggers := {}
  ended : Bool := false

namespace Session

def heartbeatCell : Cell Session Heartbeat := ⟨(·.heartbeat), fun h w => { w with heartbeat := h }⟩

def managerCell : Cell Session Memory.Machine := ⟨(·.manager), fun m w => { w with manager := m }⟩

def errorsCell : Cell Session ErrorBox := ⟨(·.errors), fun e w => { w with errors := e }⟩

def triggersCell : Cell Session Shutdown.Triggers := ⟨(·.triggers), fun t w => { w with triggers := t }⟩

instance : Background Session where
  settle now w :=
    let (heartbeat, lines) := w.heartbeat.settle now
    ({ w with heartbeat }, lines)
  pass since later w :=
    let (hs, lines) := Workload.passAll [w.heartbeat] since later
    ({ w with heartbeat := hs.headD w.heartbeat }, lines)

/-- A session of a configuration before it begins. -/
def ofConfig (config : ServiceConfig) : Session := { heartbeat := { interval := heartbeatInterval config } }

/-- A signal comes; only the first one counts. -/
def receive (signal : Termination) : Act Session Unit := do
  if !(← get).world.ended then
    Act.info s!"Received {signal.name}"
    modify fun s => { s with world := { s.world with ended := true } }

/-- What the session waits for, unless the system does not let it. -/
def killSignal (fault : Option String) : Act Session (Wait Session) :=
  match fault with
  | some reason => unavailableKillSignal reason
  | none => pure ⟨none, (·.ended)⟩

def controller (config : ServiceConfig) (fault : Option String) (binary : RunningBinary) (interactive : Bool) :
    Controller Session Unit String where
  gateway := Memory.gateway managerCell
  workload := Workload.heartbeat heartbeatCell
  config
  interactive
  terminate := Memory.terminator managerCell
  killSignal := killSignal fault
  errors := errorsCell
  triggers := triggersCell
  binary

/-- Runs the service until a signal comes. -/
def run (config : ServiceConfig) (fault : Option String) (binary : RunningBinary) : Op Session Unit := do
  let interactive ← (Platform.detectInteractive : Call Session Bool)
  Act.debug s!"Platform: {Platform.name}, interactive: {interactive}"
  Act.info s!"Starting {config.display}"
  if let .error e ← attempt ((controller config fault binary interactive).run) then
    Act.error s!"run {config.display} failed: {e.message}"
    throw e

end Session

/-! ## From an outcome to the end of the program -/

/-- How the program ends: with a code, and having printed one text or complained with another. -/
structure Ending where
  code : UInt32 := 0
  printed : String := ""
  complaint : Option String := none
  deriving DecidableEq, Repr, Inhabited

namespace Ending

def fails (message : String) : Ending := { code := 1, complaint := some message }

def ofRun : Except ServiceError Unit → Ending
  | .ok () => {}
  | .error e => fails e.message

end Ending

/-- What there is before a configuration: a heartbeat that nobody ever starts. -/
def Session.unconfigured : Session := { heartbeat := { interval := 0 } }

/-- Carries an outcome out up to the first wait. -/
def Outcome.carryOut (fault : Option String) (binary : RunningBinary) : Outcome → Step Session Ending
  | .prints text => .done { printed := text } { world := Session.unconfigured }
  | .fails error => .done (.fails error.message) { world := Session.unconfigured }
  | .runs config _ =>
    Task.andThen (Session.run config fault binary).run Ending.ofRun { world := Session.ofConfig config }

/-- Looks at a program that waits, after the clock has gone to an instant and signals have come: it goes on as far as it
can at that instant. -/
def look {α : Type} (instant : Nat) (signals : List Termination) : Step Session α → Step Session α
  | .done a s => .done a s
  | .wait w s resume =>
    (Step.wait w ((signals.forM Session.receive).run (s.settle.advance instant)).2 resume).goOn

/-! ## What is shown of the journal -/

/-- How many of the levels are shown, the gravest first: all on request, else those up to the level of a setting, and
those up to information where there is no setting. -/
def shownLevels (debug : Bool) (setting : Option String) : Nat :=
  if debug then 4
  else match setting with
    | none | some "info" => 3
    | some "off" => 0
    | some "warn" => 2
    | some "debug" | some "trace" => 4
    | some _ => 1

/-- The lines of a journal that are shown, in order. -/
def shown (levels : Nat) (journal : Journal) : List String :=
  (journal.reverse.filter fun line => ([.error, .warn, .info, .debug].take levels).contains line.level).map (·.render)

end ServiceControl.CommandLine
