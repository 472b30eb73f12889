import ServiceControl.Controller
import ServiceControl.Platform
import ServiceControl.Workload.Heartbeat
import ServiceControl.Workload.Scripted
/-!
# Stages

A world to try controllers in: a manager of some kind, and for each controller its workload and its error box, with the
triggers of their contexts.  Heartbeats go on beside whatever is done on a stage.
-/
namespace ServiceControl.Scenario

open Workload (Heartbeat Scripted)

/-- The state of a workload. -/
inductive Job
  | scripted (state : Scripted)
  | heartbeat (state : Heartbeat)

instance : Inhabited Job := ⟨.scripted {}⟩

/-- What belongs to one controller. -/
structure Actor where
  job : Job
  errors : ErrorBox := {}
  /-- The trigger of its context, unless it has none or was let go of. -/
  trigger : Option Nat := none
  deriving Inhabited

structure Stage (G : Type) where
  manager : G
  actors : List Actor := []
  triggers : Shutdown.Triggers := {}
  /-- Reports with the time they were made, the latest first. -/
  reports : List (Nat × StatusReport) := []

namespace Stage

variable {G : Type}

def managerCell : Cell (Stage G) G := ⟨(·.manager), fun m w => { w with manager := m }⟩

def triggersCell : Cell (Stage G) Shutdown.Triggers := ⟨(·.triggers), fun t w => { w with triggers := t }⟩

def reportsCell : Cell (Stage G) (List (Nat × StatusReport)) := ⟨(·.reports), fun r w => { w with reports := r }⟩

/-- What belongs to the controller of a number. -/
def actorCell (i : Nat) : Cell (Stage G) Actor :=
  ⟨fun w => w.actors[i]?.getD default, fun a w => { w with actors := w.actors.set i a }⟩

def errorsCell (i : Nat) : Cell (Stage G) ErrorBox :=
  (actorCell i).inside ⟨(·.errors), fun e a => { a with errors := e }⟩

def triggerCell (i : Nat) : Cell (Stage G) (Option Nat) :=
  (actorCell i).inside ⟨(·.trigger), fun t a => { a with trigger := t }⟩

def scriptedCell (i : Nat) : Cell (Stage G) Scripted :=
  (actorCell i).inside ⟨fun a => match a.job with | .scripted s => s | .heartbeat _ => {},
    fun s a => { a with job := .scripted s }⟩

def heartbeatCell (i : Nat) : Cell (Stage G) Heartbeat :=
  (actorCell i).inside ⟨fun a => match a.job with | .heartbeat h => h | .scripted _ => { interval := 0 },
    fun h a => { a with job := .heartbeat h }⟩

/-- The heartbeats by the numbers of their controllers; a controller without one has a silent one here. -/
def heartbeats (w : Stage G) : List Heartbeat :=
  w.actors.map fun a => match a.job with | .heartbeat h => h | .scripted _ => { interval := 0 }

/-- Puts heartbeats back where there are some. -/
def putHeartbeats (w : Stage G) (hs : List Heartbeat) : Stage G :=
  { w with actors := w.actors.zipWith (fun a h => match a.job with
      | .heartbeat _ => { a with job := .heartbeat h }
      | .scripted _ => a) hs }

instance : Background (Stage G) where
  settle now w :=
    let (hs, lines) := Workload.settleAll now w.heartbeats
    (w.putHeartbeats hs, lines)
  pass since later w :=
    let (hs, lines) := Workload.passAll w.heartbeats since later
    (w.putHeartbeats hs, lines)

/-- Keeps a report with its time. -/
def keepReport (r : StatusReport) : Act (Stage G) Unit := do
  let now ← Act.now
  Act.update reportsCell fun rs => (now, r) :: rs

end Stage

/-! ## Roles -/

/-- What is given of a controller. -/
structure Role where
  config : ServiceConfig
  job : Job := default
  interactive : Bool := false
  /-- Its context can be cancelled. -/
  cancellable : Bool := false
  /-- How long after an interactive run begins to wait its kill signal comes. -/
  killAfter : Option Nat := none
  /-- Why its kill signal cannot be set up. -/
  killFault : Option String := none
  /-- It cannot terminate processes. -/
  powerless : Bool := false
  deriving Inhabited

namespace Role

/-- A controller that has no context of its own takes up no trigger. -/
def cast (roles : List Role) : List Role × List Actor × Shutdown.Triggers :=
  roles.foldl (fun (rs, actors, triggers) role =>
    if role.cancellable then
      let (trigger, triggers) := triggers.create
      (rs ++ [{ role with config := { role.config with context := .of trigger } }],
        actors ++ [{ job := role.job, trigger := some trigger }], triggers)
    else (rs ++ [role], actors ++ [{ job := role.job }], triggers)) ([], [], {})

variable {G S E : Type}

def workload (role : Role) (i : Nat) : Workload (Stage G) :=
  match role.job with
  | .scripted _ => Workload.scripted (Stage.scriptedCell i)
  | .heartbeat _ => Workload.heartbeat (Stage.heartbeatCell i)

/-- A kill signal that comes some time after it is waited for, or never. -/
def killSignal (role : Role) : Act (Stage G) (Wait (Stage G)) := do
  match role.killFault, role.killAfter with
  | some reason, _ => unavailableKillSignal reason
  | none, some ms => return .till ((← Act.now) + ms)
  | none, none => return .never

def refuse (pid : Nat) : Call (Stage G) Unit := throw (.processNotFound pid)

/-- The controller of a number. -/
def controller (role : Role) (i : Nat) (gateway : Gateway (Stage G) S E) (terminate : Nat → Call (Stage G) Unit)
    (binary : RunningBinary) : Controller (Stage G) S E where
  gateway
  workload := role.workload i
  config := role.config
  interactive := role.interactive
  terminate := if role.powerless then refuse else terminate
  killSignal := role.killSignal
  errors := Stage.errorsCell i
  triggers := Stage.triggersCell
  binary

end Role

end ServiceControl.Scenario
