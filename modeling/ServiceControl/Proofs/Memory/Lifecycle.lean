import ServiceControl.Proofs.Memory.Orders
import ServiceControl.Proofs.Stages
/-!
# The lifecycle of a service

To its user a service is absent, stopped or running, and each order takes it from one of these to another or is refused.
Main statement: over a memory manager that refuses nothing, a controller goes through this lifecycle, whatever its service
does when it is asked to stop, and however long it is granted (`orders_follow_lifecycle`).
-/
namespace ServiceControl.Memory

open Cell (Returns Leads)

/-! ## The lifecycle -/

inductive Condition
  | absent
  | stopped
  | running (pid : Nat)
  deriving DecidableEq, Repr

namespace Condition

def phase? : Condition → Option Phase
  | absent => none
  | stopped => some .stopped
  | running pid => some (.running pid)

def isInstalled : Condition → Bool
  | absent => false
  | _ => true

end Condition

/-- What is done with a service: orders to its controller, and between them time passes and the machine changes its ways. -/
inductive Action
  | install
  | uninstall
  | start
  | stop
  | restart
  | status
  | pass (ms : Nat)
  | behave (behavior : StopBehavior)
  | grant (ms : Nat)

inductive Reply
  | done (result : Except ServiceError Unit)
  | told (text : String)

/-- The condition of a service, and the id that the next process gets. -/
structure Lifecycle where
  condition : Condition := .absent
  nextPid : Nat := 1000

namespace Lifecycle

/-- A new process. -/
def launch (l : Lifecycle) : Lifecycle := ⟨.running l.nextPid, l.nextPid + 1⟩

def refuse (l : Lifecycle) (e : ServiceError) : Reply × Lifecycle := (.done (.error e), l)

def step (name : String) (l : Lifecycle) : Action → Reply × Lifecycle
  | .install =>
    match l.condition with
    | .absent => (.done (.ok ()), { l with condition := .stopped })
    | _ => l.refuse (.alreadyExists name)
  | .uninstall =>
    match l.condition with
    | .absent => l.refuse (.notInstalled name)
    | _ => (.done (.ok ()), { l with condition := .absent })
  | .start =>
    match l.condition with
    | .absent => l.refuse (.notInstalled name)
    | .stopped => (.done (.ok ()), l.launch)
    | .running _ => l.refuse alreadyRunning
  | .stop =>
    match l.condition with
    | .absent => l.refuse (.notInstalled name)
    | .stopped => l.refuse notStarted
    | .running _ => (.done (.ok ()), { l with condition := .stopped })
  | .restart =>
    match l.condition with
    | .absent => l.refuse (.notInstalled name)
    | .stopped => l.refuse notStarted
    | .running _ => (.done (.ok ()), l.launch)
  | .status =>
    match l.condition with
    | .absent => (.told s!"Service {name} is not installed", l)
    | .stopped => (.told "Stop", l)
    | .running _ => (.told "Running", l)
  | _ => (.done (.ok ()), l)

def run (name : String) (l : Lifecycle) : List Action → List Reply × Lifecycle
  | [] => ([], l)
  | action :: actions =>
    let (reply, l) := l.step name action
    let (replies, l) := l.run name actions
    (reply :: replies, l)

end Lifecycle

/-! ## Orders -/

section Orders

variable {γ : Type}

def Action.perform (c : Controller γ Unit String) (cell : Cell γ Machine) : Action → Task γ Reply
  | .install => do return .done (← c.install.run)
  | .uninstall => do return .done (← c.uninstall.run)
  | .start => do return .done (← c.start.run)
  | .stop => do return .done (← c.stop.run)
  | .restart => do return .done (← c.restart.run)
  | .status => do return .told (← c.status)
  | .pass ms => do
    Task.sleep ms
    return .done (.ok ())
  | .behave behavior => do
    Act.update cell fun m => { m with stopBehavior := behavior }
    return .done (.ok ())
  | .grant ms => do
    Act.update cell fun m => { m with stopTimeout := ms }
    return .done (.ok ())

def performAll (c : Controller γ Unit String) (cell : Cell γ Machine) : List Action → Task γ (List Reply)
  | [] => return []
  | action :: actions => do
    let reply ← action.perform c cell
    return reply :: (← performAll c cell actions)

end Orders

/-! ## What a machine shows -/

/-- **A machine shows a service in its lifecycle**, and holds nothing for its controller. -/
structure Agrees (m : Machine) (name : String) (l : Lifecycle) : Prop where
  phase : (m.services.find? name).map (·.phase) = l.condition.phase?
  logSource : m.hasLogSource name = l.condition.isInstalled
  nextPid : m.nextPid = l.nextPid
  openSessions : m.openSessions = 0
  openEntries : m.openEntries = 0
  willing : m.Willing
  sound : m.ledger.Sound

namespace Agrees

variable {b : Machine} {name : String} {l : Lifecycle}

theorem absent (h : Agrees b name l) (hl : l.condition = .absent) : b.services.find? name = none := by
  have hp := h.phase
  rw [hl] at hp
  exact Option.map_eq_none_iff.1 hp

theorem stopped (h : Agrees b name l) (hl : l.condition = .stopped) :
    ∃ s, b.services.find? name = some s ∧ s.phase = .stopped := by
  have hp := h.phase
  rw [hl] at hp
  exact Option.map_eq_some_iff.1 hp

theorem running (h : Agrees b name l) {pid : Nat} (hl : l.condition = .running pid) :
    ∃ s, b.services.find? name = some s ∧ s.phase = .running pid := by
  have hp := h.phase
  rw [hl] at hp
  exact Option.map_eq_some_iff.1 hp

variable {s s' : Service} {pid : Nat}

theorem sourced (h : Agrees b name l) (found : b.services.find? name = some s) : b.hasLogSource name = true := by
  rw [h.logSource]
  cases hl : l.condition with
  | absent =>
    rw [h.absent hl] at found
    cases found
  | _ => rfl

theorem empty (name : String) : Agrees {} name {} where
  phase := rfl
  logSource := rfl
  nextPid := rfl
  openSessions := rfl
  openEntries := rfl
  willing := ⟨rfl, rfl, rfl, rfl⟩
  sound := .empty

/-- A service may change in what is not shown. -/
theorem updated (h : Agrees b name l) (found : b.services.find? name = some s) (spec : s'.spec = s.spec)
    (phase : s'.phase = s.phase) : Agrees (b.withService name s') name l where
  phase := by
    have hp := h.phase
    rw [found] at hp
    rw [b.find?_withService name s', ← hp, Option.map_some, Option.map_some, phase]
  logSource := h.logSource
  nextPid := h.nextPid
  openSessions := h.openSessions
  openEntries := h.openEntries
  willing := ⟨h.willing.1, h.willing.2, h.willing.3, h.willing.4⟩
  sound := h.sound.put_kept found spec (congrArg _ phase)

theorem installed (h : Agrees b name l) (named : s.spec.name = name) (stopped : s.phase = .stopped) :
    Agrees ((b.withService name s).withLogSource name) name { l with condition := .stopped } where
  phase := by
    have found : ((b.withService name s).withLogSource name).services.find? name = some s := b.find?_withService name s
    rw [found, Option.map_some, stopped]
    rfl
  logSource := by
    show (name :: b.logSources).contains name = true
    rw [List.contains_cons, beq_self_eq_true, Bool.true_or]
  nextPid := h.nextPid
  openSessions := h.openSessions
  openEntries := h.openEntries
  willing := ⟨h.willing.1, h.willing.2, h.willing.3, h.willing.4⟩
  sound := h.sound.put_stopped named stopped

theorem launched (h : Agrees b name l) (found : b.services.find? name = some s) :
    Agrees (b.launched name s) name l.launch where
  phase := by
    have found : (b.launched name s).services.find? name = _ := b.find?_withService name _
    rw [found, Option.map_some, h.nextPid]
    rfl
  logSource := h.sourced found
  nextPid := by
    show b.nextPid + 1 = l.nextPid + 1
    rw [h.nextPid]
  openSessions := h.openSessions
  openEntries := h.openEntries
  willing := ⟨h.willing.1, h.willing.2, h.willing.3, h.willing.4⟩
  sound := h.sound.put_started found rfl rfl

/-- However it was stopped, a service has stopped. -/
theorem ended (h : Agrees b name l) (found : b.services.find? name = some s) (running : s.phase = .running pid)
    (outcome : StopOutcome) : Agrees (b.ended name s pid outcome) name { l with condition := .stopped } where
  phase := by
    rw [b.find?_ended name s pid outcome]
    rfl
  logSource := by cases outcome <;> exact h.sourced found
  nextPid := by cases outcome <;> exact h.nextPid
  openSessions := by cases outcome <;> exact h.openSessions
  openEntries := by cases outcome <;> exact h.openEntries
  willing := h.willing.ended name s pid outcome
  sound := by
    have process : s.phase.process? = some pid := by
      rw [running]
      rfl
    have named : s.spec.name = name := h.sound.named found
    cases outcome with
    | graceful => exact h.sound.put_stopped named rfl
    | _ => exact h.sound.terminate found process

theorem removed (h : Agrees b name l) : Agrees (b.removed name) name { l with condition := .absent } where
  phase := by
    have absent : (b.removed name).services.find? name = none := by
      rw [Machine.removed, Machine.withoutService, NameMap.find?_erase, if_pos rfl]
    rw [absent]
    rfl
  logSource := by
    show (b.logSources.filter (· ≠ name)).contains name = false
    simp
  nextPid := h.nextPid
  openSessions := h.openSessions
  openEntries := h.openEntries
  willing := ⟨h.willing.1, h.willing.2, h.willing.3, h.willing.4⟩
  sound := h.sound.erase name

/-- What is not shown may change, and what the machine remembers with it. -/
theorem retuned (h : Agrees b name l) (behavior : StopBehavior) (timeout : Nat) (history : List Event) :
    Agrees { b with stopBehavior := behavior, stopTimeout := timeout, history } name l :=
  ⟨h.phase, h.logSource, h.nextPid, h.openSessions, h.openEntries,
    ⟨h.willing.1, h.willing.2, h.willing.3, h.willing.4⟩, h.sound⟩

theorem process (h : Agrees b name l) (hl : l.condition = .running pid) : 1000 ≤ pid ∧ pid < l.nextPid := by
  obtain ⟨s, found, running⟩ := h.running hl
  rw [← h.nextPid]
  exact h.sound.issued found (by rw [running]; rfl)

/-! A controller provides for failures first, or sees to it that nothing is provided for. -/

variable {γ : Type} {c : Controller γ Unit String} {action : RecoveryAction}

theorem recovering (h : Agrees b c.name l) (found : b.services.find? c.name = some s) :
    Agrees (b.withService c.name (recovering c action s)) c.name l :=
  h.updated found (spec_recovering action s) (phase_recovering action s)

theorem recovering_launched (h : Agrees b c.name l) (found : b.services.find? c.name = some s) :
    Agrees (b.launched c.name (Memory.recovering c action s)) c.name l.launch := by
  rw [← launched_withService b c.name (Memory.recovering c action s)]
  exact (h.recovering found).launched (b.find?_withService _ _)

theorem recovering_ended (h : Agrees b c.name l) (found : b.services.find? c.name = some s)
    (running : s.phase = .running pid) (outcome : StopOutcome) :
    Agrees (b.ended c.name (Memory.recovering c action s) pid outcome) c.name { l with condition := .stopped } := by
  rw [← ended_withService b c.name (Memory.recovering c action s)]
  exact (h.recovering found).ended (b.find?_withService _ _) ((phase_recovering action s).trans running) outcome

end Agrees

/-! ## The simulation -/

section Simulation

variable {γ : Type} [Background γ] {c : Controller γ Unit String} {cell : Cell γ Machine} {b : Machine} {l : Lifecycle}

/-- An action is answered as in the lifecycle, and after it the machine shows the service as the lifecycle has it. -/
def Follows (c : Controller γ Unit String) (cell : Cell γ Machine) (b : Machine) (l : Lifecycle)
    (action : Action) : Prop :=
  ∀ now, ∃ later b',
    (presentCell cell).Leads (action.perform c cell) ⟨now, b⟩ (some (l.step c.name action).1) ⟨later, b'⟩ ∧
      Agrees b' c.name (l.step c.name action).2

theorem done_leads {x : Op γ Unit} {r : Except ServiceError Unit} {before after : Sight Machine}
    (h : (presentCell cell).Returns x before r after) :
    (presentCell cell).Leads (do return .done (← x.run) : Task γ Reply) before (some (.done r)) after :=
  Leads.bind h (.pure _)

variable (g : Governs c cell) (h : Agrees b c.name l)
include g h

theorem install_follows {spec : ServiceSpec} (resolved : ServiceSpec.ofConfig c.binary c.config = .ok spec) :
    Follows c cell b l .install := by
  intro now
  obtain ⟨condition, nextPid⟩ := l
  cases condition with
  | absent =>
    have unsourced : b.hasLogSource c.name = false := h.logSource
    have hi : (presentCell cell).Returns c.install ⟨now, b⟩ _ _ :=
      install_returns g resolved h.willing.grantsAccess h.willing.registers (h.absent rfl) unsourced
    have named : (recovering c .restartNow { spec }).spec.name = c.name := by
      rw [spec_recovering]
      exact name_of_resolved resolved
    exact ⟨now, _, done_leads (Returns.call hi), h.installed named (phase_recovering _ _)⟩
  | stopped =>
    obtain ⟨s, found, -⟩ := h.stopped rfl
    have hi : (presentCell cell).Returns c.install ⟨now, b⟩ _ _ := install_refused g h.willing.grantsAccess found
    exact ⟨now, b, done_leads (Returns.call hi), h⟩
  | running pid =>
    obtain ⟨s, found, -⟩ := h.running rfl
    have hi : (presentCell cell).Returns c.install ⟨now, b⟩ _ _ := install_refused g h.willing.grantsAccess found
    exact ⟨now, b, done_leads (Returns.call hi), h⟩

theorem uninstall_follows : Follows c cell b l .uninstall := by
  intro now
  obtain ⟨condition, nextPid⟩ := l
  cases condition with
  | absent => exact ⟨now, b, done_leads (uninstall_absent g h.willing.grantsAccess (h.absent rfl)), h⟩
  | stopped =>
    obtain ⟨s, found, stopped⟩ := h.stopped rfl
    have h' : Agrees (b.withService c.name (recovering c .none s)) c.name _ := h.recovering found
    have found' := b.find?_withService c.name (recovering c .none s)
    have hs : (presentCell cell).Returns (c.stopEntry c.name) ⟨now, b.inSession.inEntry⟩ _ _ :=
      stopEntry_stopped g found stopped
    have hu := uninstall_returns g h.willing.grantsAccess found hs h'.willing.deletes h'.willing.removes found'
      (h'.sourced found')
    exact ⟨now, _, done_leads hu, h'.removed⟩
  | running pid =>
    obtain ⟨s, found, running⟩ := h.running rfl
    have hs := stopEntry_running (b := b.inSession.inEntry) g now h.sound found running
    dsimp only at hs
    rw [ended_held] at hs
    have h' : Agrees (b.ended c.name (recovering c .none s) pid _) c.name _ :=
      h.recovering_ended found running (stopEnding c.tie b.stopTimeout b.stopBehavior).1
    have found' := b.find?_ended c.name (recovering c .none s) pid (stopEnding c.tie b.stopTimeout b.stopBehavior).1
    have hu := uninstall_returns g h.willing.grantsAccess found hs h'.willing.deletes h'.willing.removes found'
      (h'.sourced found')
    exact ⟨_, _, done_leads hu, h'.removed⟩

theorem start_follows : Follows c cell b l .start := by
  intro now
  obtain ⟨condition, nextPid⟩ := l
  cases condition with
  | absent =>
    have hs : (presentCell cell).Returns c.start ⟨now, b⟩ _ _ := startOrder_absent g h.willing.grantsAccess (h.absent rfl)
    exact ⟨now, b, done_leads (Returns.call hs), h⟩
  | stopped =>
    obtain ⟨s, found, stopped⟩ := h.stopped rfl
    have hs : (presentCell cell).Returns c.start ⟨now, b⟩ _ _ := startOrder_returns g h.willing.grantsAccess found stopped
    exact ⟨now, _, done_leads (Returns.call hs), h.recovering_launched found⟩
  | running pid =>
    obtain ⟨s, found, running⟩ := h.running rfl
    have hs : (presentCell cell).Returns c.start ⟨now, b⟩ _ _ := startOrder_running g h.willing.grantsAccess found running
    exact ⟨now, _, done_leads (Returns.call hs), h.recovering found⟩

theorem stop_follows : Follows c cell b l .stop := by
  intro now
  obtain ⟨condition, nextPid⟩ := l
  cases condition with
  | absent => exact ⟨now, b, done_leads (stop_absent g h.willing.grantsAccess (h.absent rfl)), h⟩
  | stopped =>
    obtain ⟨s, found, stopped⟩ := h.stopped rfl
    exact ⟨now, _, done_leads (stop_stopped g h.willing.grantsAccess found stopped), h.recovering found⟩
  | running pid =>
    obtain ⟨s, found, running⟩ := h.running rfl
    have hs : (presentCell cell).Returns c.stop ⟨now, b⟩ _ _ := stop_running g h.willing.grantsAccess h.sound found running
    exact ⟨_, _, done_leads hs, h.recovering_ended found running _⟩

theorem restart_follows : Follows c cell b l .restart := by
  intro now
  obtain ⟨condition, nextPid⟩ := l
  cases condition with
  | absent =>
    have hs : (presentCell cell).Returns c.stop ⟨now, b⟩ _ _ := stop_absent g h.willing.grantsAccess (h.absent rfl)
    exact ⟨now, b, done_leads (restart_refused hs), h⟩
  | stopped =>
    obtain ⟨s, found, stopped⟩ := h.stopped rfl
    have hs : (presentCell cell).Returns c.stop ⟨now, b⟩ _ _ := stop_stopped g h.willing.grantsAccess found stopped
    exact ⟨now, _, done_leads (restart_refused hs), h.recovering found⟩
  | running pid =>
    obtain ⟨s, found, running⟩ := h.running rfl
    have h' : Agrees (b.ended c.name (recovering c .none s) pid _) c.name _ :=
      h.recovering_ended found running (stopEnding c.tie b.stopTimeout b.stopBehavior).1
    have hr : (presentCell cell).Returns c.restart ⟨now, b⟩ _ _ :=
      restart_running g h.willing.grantsAccess h.sound found running
    exact ⟨_, _, done_leads hr, h'.recovering_launched (b.find?_ended _ _ _ _)⟩

theorem status_follows : Follows c cell b l .status := by
  intro now
  have told {text : String} (ht : (presentCell cell).Leads c.status ⟨now, b⟩ (some text) ⟨now, b⟩) :
      (presentCell cell).Leads (Action.status.perform c cell) ⟨now, b⟩ (some (.told text)) ⟨now, b⟩ :=
    Leads.bind (Leads.act ht) (.pure _)
  obtain ⟨condition, nextPid⟩ := l
  refine ⟨now, b, ?_⟩
  cases condition with
  | absent => exact ⟨told (status_absent g h.willing.grantsAccess (h.absent rfl)), h⟩
  | stopped =>
    obtain ⟨s, found, stopped⟩ := h.stopped rfl
    have ht : (presentCell cell).Leads c.status ⟨now, b⟩ _ _ :=
      status_resting g h.willing.grantsAccess found (rests_stopped stopped)
    rw [Service.status, stopped] at ht
    exact ⟨told ht, h⟩
  | running pid =>
    obtain ⟨s, found, running⟩ := h.running rfl
    have ht : (presentCell cell).Leads c.status ⟨now, b⟩ _ _ :=
      status_resting g h.willing.grantsAccess found (rests_running running)
    rw [Service.status, running] at ht
    exact ⟨told ht, h⟩

theorem action_follows {spec : ServiceSpec} (resolved : ServiceSpec.ofConfig c.binary c.config = .ok spec)
    (action : Action) : Follows c cell b l action := by
  cases action with
  | install => exact install_follows g h resolved
  | uninstall => exact uninstall_follows g h
  | start => exact start_follows g h
  | stop => exact stop_follows g h
  | restart => exact restart_follows g h
  | status => exact status_follows g h
  | pass ms =>
    intro now
    have hsleep : (presentCell cell).Leads (Task.sleep ms) ⟨now, b⟩ (some ()) ⟨now + ms, b⟩ :=
      Leads.sleep (presentCell_still g.quiet) ms
    exact ⟨now + ms, b, hsleep.bind (.pure _), h⟩
  | behave behavior =>
    intro now
    refine ⟨now, _, Leads.bind (update_leads g.quiet.toLawful ?_) (.pure _), h.retuned behavior b.stopTimeout b.history⟩
    rintro m rfl
    rfl
  | grant ms =>
    intro now
    refine ⟨now, _, Leads.bind (update_leads g.quiet.toLawful ?_) (.pure _), h.retuned b.stopBehavior ms b.history⟩
    rintro m rfl
    rfl

/-- Action after action. -/
theorem actions_follow {spec : ServiceSpec} (resolved : ServiceSpec.ofConfig c.binary c.config = .ok spec)
    (actions : List Action) (now : Nat) : ∃ later b',
      (presentCell cell).Leads (performAll c cell actions) ⟨now, b⟩ (some (l.run c.name actions).1) ⟨later, b'⟩ ∧
        Agrees b' c.name (l.run c.name actions).2 := by
  induction actions generalizing b l now with
  | nil => exact ⟨now, b, .pure _, h⟩
  | cons action actions ih =>
    obtain ⟨then', b₁, hx, h₁⟩ := action_follows g h resolved action now
    obtain ⟨later, b₂, hxs, h₂⟩ := ih h₁ then'
    exact ⟨later, b₂, hx.bind (hxs.bind (.pure _)), h₂⟩

omit h in
/-- **A controller goes through the lifecycle**, over a machine that was empty and refuses nothing: every action is
answered as there, and after any of them the machine shows the service in its condition, with no session and no entry
left open.  The process of a service has an id below the next one, so that a restart gives it a greater one. -/
theorem orders_follow_lifecycle {spec : ServiceSpec} (resolved : ServiceSpec.ofConfig c.binary c.config = .ok spec)
    (scene : Scene γ) (fresh : cell.get scene.world = {}) (actions : List Action) :
    let last := Lifecycle.run c.name {} actions
    ∃ after, (performAll c cell actions).finish scene = (some last.1, after) ∧
      Agrees (cell.get after.world) c.name last.2 ∧
      ∀ pid, last.2.condition = .running pid → 1000 ≤ pid ∧ pid < last.2.nextPid := by
  intro last
  obtain ⟨later, b', hrun, h⟩ := actions_follow g (.empty c.name) resolved actions scene.now
  have hsight : (presentCell cell).sight scene = ⟨scene.now, {}⟩ := by
    show Sight.mk scene.now (cell.get scene.world).present = _
    rw [fresh]
    rfl
  obtain ⟨hr, hafter⟩ := hrun scene hsight
  obtain ⟨-, hb⟩ := Sight.mk.inj hafter
  refine ⟨((performAll c cell actions).finish scene).2, Prod.ext hr rfl, ?_, ?_⟩
  · have hm := h.retuned b'.stopBehavior b'.stopTimeout
      (cell.get ((performAll c cell actions).finish scene).2.world).history
    rw [← hb] at hm
    exact hm
  · intro pid hl
    exact h.process hl

omit g h in
open Scenario.Shared (World machineCell machineCell_undisturbed) in
/-- A service that rejects the request to stop is restarted under a new process id all the same, stopped by force again,
and then gone. -/
theorem orders_follow_lifecycle_rejecting :
    let role : Scenario.Role := { config := { name := "svcA", restartOnFailure := true } }
    let c : Controller World Unit String :=
      role.controller 0 (gateway machineCell) (terminator machineCell) (.ok "/bin/svc")
    let scene : Scene World := { world := { manager := {} } }
    let done : Reply := .done (.ok ())
    Governs c machineCell ∧ (∃ spec, ServiceSpec.ofConfig c.binary c.config = .ok spec) ∧
      machineCell.get scene.world = {} ∧
      ∃ after, (performAll c machineCell [.status, .install, .start, .behave .reject, .restart, .pass 7, .status, .start,
          .stop, .restart, .uninstall, .stop]).finish scene =
        (some [.told "Service svcA is not installed", done, done, done, done, done, .told "Running",
          .done (.error alreadyRunning), done, .done (.error notStarted), done, .done (.error (.notInstalled "svcA"))],
          after) ∧
        Agrees (machineCell.get after.world) "svcA" ⟨.absent, 1002⟩ := by
  intro role c scene done
  have g : Governs c machineCell := ⟨rfl, rfl, machineCell_undisturbed⟩
  obtain ⟨after, hreplies, hafter, -⟩ := orders_follow_lifecycle g rfl scene rfl _
  exact ⟨g, ⟨_, rfl⟩, rfl, after, hreplies, hafter⟩

end Simulation

end ServiceControl.Memory
