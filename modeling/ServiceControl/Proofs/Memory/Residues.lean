import Mathlib.Control.Monad.Basic
import ServiceControl.Proofs.Memory.Pairing
import ServiceControl.Proofs.Memory.Processes
import ServiceControl.Proofs.Memory.Refusals
/-!
# What failures leave behind

Between the orders to its controllers no service of a machine is on its way to stop (`Completed.calm`), so what an order
leaves behind can be told from the machine before it.  Main statement: what it is for each order and each error that it may
come to (`failures_leave`).
-/
namespace ServiceControl.Memory

open Cell (Ensures Keeps Succeeds Yields)
open Scenario (Order)

variable {γ : Type}

/-! ## Machines at rest -/

/-- **Every service is at rest**, and the processes of the machine are in order. -/
structure Machine.Calm (m : Machine) : Prop where
  sound : m.ledger.Sound
  rests : ∀ name s, m.services.find? name = some s → s.Rests

namespace Machine.Calm

variable {m m' : Machine} {name : String} {s s' : Service} {c : Controller γ Unit String} {action : RecoveryAction}
  {terminated : List Nat}

theorem empty : ({} : Machine).Calm := ⟨.empty, nofun⟩

/-- What is not in the ledger does not matter. -/
theorem of_ledger (h : m.Calm) (same : m'.ledger = m.ledger) : m'.Calm := by
  have services : m'.services = m.services := congrArg Ledger.services same
  refine ⟨?_, ?_⟩
  · rw [same]
    exact h.sound
  · rw [services]
    exact h.rests

theorem put (h : m.Calm) (sound : m'.ledger.Sound) (services : m'.services = m.services.put name s) (rests : s.Rests) :
    m'.Calm := by
  refine ⟨sound, fun other s' found => ?_⟩
  rw [services, NameMap.find?_put] at found
  split at found
  · obtain rfl := Option.some.inj found
    exact rests
  · exact h.rests other s' found

theorem erase (h : m.Calm) (name : String) : (m.withoutService name).Calm := by
  refine ⟨h.sound.erase name, fun other s found => ?_⟩
  have found : (m.services.erase name).find? other = some s := found
  rw [NameMap.find?_erase] at found
  split at found
  · cases found
  · exact h.rests other s found

/-- A service may be put in the place of one with its process. -/
theorem updated (h : m.Calm) (found : m.services.find? name = some s) (spec : s'.spec = s.spec)
    (phase : s'.phase = s.phase) : (m.withService name s').Calm := by
  refine h.put (h.sound.put_kept found spec (congrArg _ phase)) rfl ?_
  rcases phase_of_rests (h.rests name s found) with stopped | ⟨pid, running⟩
  · exact rests_stopped (phase.trans stopped)
  · exact rests_running (phase.trans running)

theorem recovering (h : m.Calm) (found : m.services.find? c.name = some s) :
    (m.withService c.name (recovering c action s)).Calm :=
  h.updated found (spec_recovering action s) (phase_recovering action s)

theorem launched (h : m.Calm) (found : m.services.find? name = some s) (spec : s'.spec = s.spec) :
    (m.launched name s').Calm :=
  h.put (h.sound.put_started found spec rfl) rfl (rests_running rfl)

theorem halted (h : m.Calm) (found : m.services.find? c.name = some s) (spends : Spends m s terminated) :
    (m.halted c s terminated).Calm := by
  have recovered : (m.withService c.name (Memory.recovering c .none s)).Calm := h.recovering found
  have found' := m.find?_withService c.name (Memory.recovering c .none s)
  have named := recovered.sound.named found'
  refine h.put ?_ rfl (rests_stopped rfl)
  -- a process that was ended by force is in the ledger of those that ended, so it may not be the process of a service
  rcases spends with rfl | ⟨pid, running, rfl⟩
  · exact h.sound.put_stopped named rfl
  · have process : (Memory.recovering c .none s).phase.process? = some pid := by
      rw [phase_recovering, running]
      rfl
    have sound : ((m.withService c.name (Memory.recovering c .none s)).ended c.name (Memory.recovering c .none s) pid
        .terminated).ledger.Sound :=
      recovered.sound.terminate found' process
    rwa [ended_withService] at sound

end Machine.Calm

/-- An order leaves every service at rest, however it fares. -/
theorem Fares.calm {c : Controller γ Unit String} {m m' : Machine} {order : Order} {r : Except ServiceError Unit}
    (h : m.Calm) (fares : Fares c m order r m') : m'.Calm := by
  have entered {spec : ServiceSpec} (resolved : ServiceSpec.ofConfig c.binary c.config = .ok spec) (s : Service)
      (mine : s.spec = spec) (stopped : s.phase = .stopped) : (m.withService c.name s).Calm := by
    have named : s.spec.name = c.name := mine ▸ name_of_resolved resolved
    exact h.put (h.sound.put_stopped named stopped) rfl (rests_stopped stopped)
  cases fares with
  | failed miscarries =>
    cases miscarries with
    | unfound | taken | unresolved | rolledBack => exact h
    | stuck _ resolved => exact entered resolved _ rfl rfl
    | running found => exact h.recovering found
    | unstarted _ found => exact h.recovering found
    | undeleted found spends => exact h.halted found spends
    | unremoved found spends =>
      rw [← withoutService_halted]
      exact (h.halted found spends).erase c.name
  | installed _ resolved => exact (entered resolved _ (spec_recovering _ _) (phase_recovering _ _)).of_ledger rfl
  | started found => exact h.launched found (spec_recovering _ _)
  | stopped found spends => exact h.halted found spends
  | @restarted s terminated found spends =>
    exact (h.halted found spends).launched (find?_halted c m s terminated) (spec_recovering _ _)
  | @uninstalled s terminated found spends =>
    have struck := (h.halted found spends).erase c.name
    rw [withoutService_halted] at struck
    exact struck.of_ledger rfl

/-! ## Looks at the services -/

/-- Neither the services nor their processes nor the log sources have changed. -/
structure Machine.Same (m m' : Machine) : Prop where
  ledger : m'.ledger = m.ledger
  logSources : m'.logSources = m.logSources

theorem same_timeless (m : Machine) : Cell.Timeless fun σ => m.Same σ.held := fun _ _ h => h

section Looks

variable {c : Controller γ Unit String} {cell : Cell γ Machine} {m : Machine} (calm : m.Calm)
include calm

/-- A service at rest is the same after a look at it. -/
theorem touched_same {m' : Machine} (h : m.Same m') {operation : Operation} {now : Nat} {name : String} {s : Service}
    (found : m'.services.find? name = some s) : m.Same (m'.touched operation now name s) := by
  have services : m'.services = m.services := congrArg Ledger.services h.ledger
  have rests : s.Rests := calm.rests name s (services ▸ found)
  have untouched := touched_resting found rests operation now
  exact ⟨(congrArg Machine.ledger untouched).trans h.ledger, (congrArg Machine.logSources untouched).trans h.logSources⟩

theorem status_same (gated : c.gateway = gateway cell) (lawful : cell.Lawful) :
    cell.Ensures (fun σ => m.Same σ.held) c.status fun _ σ => m.Same σ.held := by
  unfold Controller.status
  rw [gated]
  refine Gateway.status_quiet ?_ (fun session name => ?_) (fun entry => ?_) (fun entry => ?_) fun session => ?_
  · refine asking_yields lawful fun σ hσ => ?_
    cases h : σ.held.deniesAccess with
    | true => exact ⟨_, _, connect_denied h, hσ.ledger, hσ.logSources⟩
    | false => exact ⟨_, _, connect_granted h, hσ.ledger, hσ.logSources⟩
  · refine asking_yields lawful fun σ hσ => ?_
    cases h : σ.held.services.find? name with
    | none => exact ⟨_, _, openEntry_absent h, hσ.ledger, hσ.logSources⟩
    | some s => exact ⟨_, _, openEntry_found h, hσ.ledger, hσ.logSources⟩
  · refine askingNow_yields lawful fun σ hσ => ?_
    cases h : σ.held.services.find? entry with
    | none => exact ⟨_, _, query_absent h, hσ.ledger, hσ.logSources⟩
    | some s => exact ⟨_, _, query_found h, touched_same calm hσ h⟩
  · exact onMachine_ensures lawful fun σ hσ => ⟨hσ.ledger, hσ.logSources⟩
  · exact onMachine_ensures lawful fun σ hσ => ⟨hσ.ledger, hσ.logSources⟩

variable [Background γ] (o : Oversees c cell)
include o

/-- **A run changes nothing that is registered**, and starts and ends no process. -/
theorem run_same : cell.Keeps (fun σ => m.Same σ.held) False c.run.run := by
  have lawful := o.quiet.toLawful
  refine (o.run_keeps (same_timeless m) (status_same calm o.gateway lawful) ?_ ?_ fun report => ?_).of_ends False.elim
  · exact asking_yields lawful fun σ hσ => ⟨_, _, takeScript_answers, hσ.ledger, hσ.logSources⟩
  · exact asking_yields lawful fun σ hσ => ⟨_, _, takeFault_answers, hσ.ledger, hσ.logSources⟩
  · exact onMachine_ensures lawful fun σ hσ => ⟨hσ.ledger, hσ.logSources⟩

end Looks

/-! ## One order -/

variable {c : Controller γ Unit String} {cell : Cell γ Machine}

/-- **Where an order gets to** that is carried out to its end. -/
inductive Lands (c : Controller γ Unit String) (m : Machine) : Order → Except ServiceError Unit → Machine → Prop
  | denied {order : Order} (asks : order = .install ∨ needsEntry order = true) :
      Lands c m order (.error .permissionDenied) (m.asked .connect)
  | fared {order : Order} {r : Except ServiceError Unit} {m' : Machine} (fares : Fares c m.present order r m'.present) :
      Lands c m order r m'
  | told {m' : Machine} (same : m.Same m') : Lands c m .status (.ok ()) m'
  | ran {r : Except ServiceError Unit} {m' : Machine} (same : m.Same m') : Lands c m .run r m'

theorem Lands.calm {m m' : Machine} {order : Order} {r : Except ServiceError Unit} (h : m.Calm)
    (lands : Lands c m order r m') : m'.Calm := by
  cases lands with
  | denied => exact h.of_ledger rfl
  | fared fares =>
    have before : m.present.Calm := h.of_ledger rfl
    exact (fares.calm before).of_ledger rfl
  | told same | ran same => exact h.of_ledger same.ledger

/-- **What a failed order leaves behind**, apart from what the machine remembers. -/
inductive Residue (c : Controller γ Unit String) (m m' : Machine) : Order → ServiceError → Prop
  /-- A session was asked for and nothing else. -/
  | denied {order : Order} (asks : order = .install ∨ needsEntry order = true)
      (asked : m'.operations = m.operations ++ [.connect]) (same : m'.present = m.present) :
      Residue c m m' order .permissionDenied
  | failed {order : Order} {e : ServiceError} (miscarries : Miscarries c m.present order e m'.present) :
      Residue c m m' order e
  | ran {e : ServiceError} (fault : RunFault e) (same : m.Same m') : Residue c m m' .run e

theorem operations_asked (m : Machine) (operation : Operation) :
    (m.asked operation).operations = m.operations ++ [operation] := by
  unfold Machine.operations Machine.asked Machine.remembering
  rw [List.reverse_cons, List.filterMap_append]
  rfl

theorem Lands.residue {m m' : Machine} {order : Order} {e : ServiceError} (lands : Lands c m order (.error e) m')
    (faults : order = .run → RunFault e) : Residue c m m' order e := by
  cases lands with
  | denied asks => exact .denied asks (operations_asked m .connect) rfl
  | fared fares =>
    generalize hb : m'.present = b' at fares
    cases fares with
    | failed miscarries => exact .failed (hb ▸ miscarries)
  | ran same => exact .ran (faults rfl) same

variable [Background γ]

theorem carryOut_lands (o : Oversees c cell) (g : Governs c cell) {s after : Scene γ} (calm : (cell.get s.world).Calm)
    {order : Order} {r : Except ServiceError Unit} (done : (carryOut c order).run.finish s = (some r, after)) :
    Lands c (cell.get s.world) order r (cell.get after.world) := by
  have asked (asks : order = .install ∨ needsEntry order = true) :
      Lands c (cell.get s.world) order r (cell.get after.world) := by
    cases denies : (cell.get s.world).deniesAccess with
    | true =>
      obtain ⟨rfl, hσ⟩ := (carryOut_denied g denies asks).finish done
      obtain ⟨-, hm⟩ := Sight.mk.inj hσ
      rw [hm]
      exact .denied asks
    | false =>
      -- what the machine remembers of its calls is not told: the order fares over the present machine
      obtain ⟨r', later, b', h, fares⟩ :=
        carryOut_fares (b := (cell.get s.world).present) g denies calm.sound (calm.rests c.name) asks s.now
      obtain ⟨rfl, hσ⟩ := h.finish done
      obtain ⟨-, hm⟩ := Sight.mk.inj hσ
      obtain rfl : (cell.get after.world).present = b' := hm
      exact .fared fares
  cases order with
  | install => exact asked (.inl rfl)
  | uninstall | start | stop | restart => exact asked (.inr rfl)
  | status =>
    have hstatus : cell.Yields (fun σ => (cell.get s.world).Same σ.held) (carryOut c .status)
        (Succeeds fun _ σ => (cell.get s.world).Same σ.held) :=
      (Yields.act (status_same calm o.gateway o.quiet.toLawful)).bind_ok fun _ => .pure fun _ hσ => hσ
    have hσ := (Ensures.admits hstatus).finish ⟨rfl, rfl⟩ done
    cases r with
    | ok _ => exact .told hσ
    | error e => exact hσ.elim
  | run =>
    exact .ran ((run_same calm o).admits.finish ⟨rfl, rfl⟩ done)

/-! ## Any number of them -/

/-- **Where a machine gets from empty** by orders that its controllers carry out to their ends, one after another, by what
it is set to between them, and by what goes on elsewhere.  The processes that have to be ended it ends itself. -/
inductive Completed (cell : Cell γ Machine) : Scene γ → Prop
  | empty {s : Scene γ} (fresh : cell.get s.world = {}) : Completed cell s
  | order {s after : Scene γ} {c : Controller γ Unit String} {order : Order} {r : Except ServiceError Unit}
      (h : Completed cell s) (o : Oversees c cell) (g : Governs c cell)
      (done : (carryOut c order).run.finish s = (some r, after)) : Completed cell after
  | set {s after : Scene γ} (h : Completed cell s) (setting : Setting)
      (done : cell.get after.world = (cell.get s.world).set setting) : Completed cell after
  | elsewhere {s after : Scene γ} (h : Completed cell s) (same : cell.get after.world = cell.get s.world) :
      Completed cell after

/-- Between orders every service is at rest. -/
theorem Completed.calm {s : Scene γ} (h : Completed cell s) : (cell.get s.world).Calm := by
  induction h with
  | empty fresh =>
    rw [fresh]
    exact .empty
  | order _ o g done ih => exact (carryOut_lands o g ih done).calm ih
  | @set s _ _ setting done ih =>
    rw [done]
    refine ih.of_ledger ?_
    cases setting <;> rfl
  | elsewhere _ same ih =>
    rw [same]
    exact ih

/-- **What failures leave behind.**  Wherever orders to its controllers have brought a machine, an order that fails leaves
behind what its error tells: nothing, or an entry without a log source, another provision for failures, a service that has
stopped, or a log source without an entry. -/
theorem failures_leave {s after : Scene γ} (h : Completed cell s) (o : Oversees c cell) (g : Governs c cell)
    {order : Order} (secluded : order = .run → Secluded c cell) {e : ServiceError}
    (done : (carryOut c order).run.finish s = (some (.error e), after)) :
    Residue c (cell.get s.world) (cell.get after.world) order e := by
  refine (carryOut_lands o g h.calm done).residue ?_
  rintro rfl
  exact (run_faults (secluded rfl) o.gateway).finish trivial done e rfl

open Scenario.Shared (World machineCell machineCell_undisturbed) in
/-- A service that does not stop when it is asked to, and whose entry cannot be deleted, has stopped all the same, and
its failures are no longer provided for. -/
theorem failures_leave_undeleted :
    let c : Controller World Unit String := Scenario.Role.controller
      { config := { name := "svcA", restartOnFailure := true } } 0 (gateway machineCell) (terminator machineCell)
      (.ok "/bin/svc")
    let set (setting : Setting) (s : Scene World) : Scene World :=
      { s with world := machineCell.set ((machineCell.get s.world).set setting) s.world }
    let order (order : Order) (s : Scene World) : Scene World := ((carryOut c order).run.finish s).2
    let first : Scene World := set (.stopTimeout 300) (set (.stopBehavior .never) { world := { manager := {} } })
    let started := set (.failsDelete true) (order .start (order .install first))
    let m := machineCell.get started.world
    let m' := machineCell.get (order .uninstall started).world
    Completed machineCell started ∧ Residue c m m' .uninstall markedForDeletion ∧
      (m.services.find? "svcA").map (fun s => (s.phase, s.recovery, s.starts)) = some (.running 1000, .restartNow, 1) ∧
      (m'.services.find? "svcA").map (fun s => (s.phase, s.recovery, s.starts)) = some (.stopped, .none, 1) ∧
      m'.hasLogSource "svcA" = true ∧ m'.terminated = [1000] := by
  intro c set order first started m m'
  have o : Oversees c machineCell := role_oversees _ 0 _
  have g : Governs c machineCell := ⟨rfl, rfl, machineCell_undisturbed⟩
  have sets {s : Scene World} (h : Completed machineCell s) (setting : Setting) : Completed machineCell (set setting s) :=
    h.set setting rfl
  have carries {s : Scene World} (h : Completed machineCell s) (what : Order) {r : Except ServiceError Unit}
      (hr : ((carryOut c what).run.finish s).1 = some r) : Completed machineCell (order what s) :=
    h.order o g (Prod.ext hr rfl)
  have install : ((carryOut c .install).run.finish first).1 = some (.ok ()) := by decide +kernel
  have start : ((carryOut c .start).run.finish (order .install first)).1 = some (.ok ()) := by decide +kernel
  have uninstall : ((carryOut c .uninstall).run.finish started).1 = some (.error markedForDeletion) := by decide +kernel
  have before : (m.services.find? "svcA").map (fun s => (s.phase, s.recovery, s.starts)) =
      some (.running 1000, .restartNow, 1) := by decide +kernel
  have left : (m'.services.find? "svcA").map (fun s => (s.phase, s.recovery, s.starts)) = some (.stopped, .none, 1) ∧
      m'.hasLogSource "svcA" = true ∧ m'.terminated = [1000] := by decide +kernel
  have h₀ : Completed machineCell first := sets (sets (.empty rfl) (.stopBehavior .never)) (.stopTimeout 300)
  have h₁ : Completed machineCell (order .start (order .install first)) :=
    carries (carries h₀ .install install) .start start
  have completed : Completed machineCell started := sets h₁ (.failsDelete true)
  clear_value started
  have secluded : Order.uninstall = .run → Secluded c machineCell := fun _ => role_secluded _ 0 _
  have done : (carryOut c .uninstall).run.finish started = (some (.error markedForDeletion), order .uninstall started) :=
    Prod.ext uninstall rfl
  exact ⟨completed, failures_leave completed o g secluded done, before, left⟩

end ServiceControl.Memory
