import ServiceControl.Proofs.Callbacks
import ServiceControl.Proofs.Memory.Faults
/-!
# Controllers of a stage

The workloads of a stage are discreet, its controllers oversee the machine of the stage, and each has its error box to
itself.
-/
namespace ServiceControl.Memory

open Cell (Ensures Yields Keeps)
open Workload (Scripted Heartbeat)

section Workloads

variable {γ α δ ε : Type} [Background γ] {cell : Cell γ Machine} {view : View γ}

namespace Discreet

theorem bind_run {x : ExceptT ε (Task γ) α} {f : α → ExceptT ε (Task γ) δ} (hx : Discreet cell view x.run)
    (hf : ∀ a, Discreet cell view (f a).run) : Discreet cell view (x >>= f).run := by
  refine Discreet.bind hx ?_
  intro r
  cases r with
  | ok a => exact hf a
  | error e => exact .elsewhere fun _ => .pure _

theorem quietly {x : ExceptT ε (Task γ) α}
    (h : ∀ m, cell.Yields (fun σ => σ.held = m) x fun _ σ => σ.held = m) : Discreet cell view x.run :=
  .elsewhere fun m => Ensures.keeps (h m)

theorem pure (a : α) : Discreet cell view (Pure.pure a : Task γ α) := .elsewhere fun _ => .pure a

end Discreet

theorem held_timeless {β : Type} (b : β) : Cell.Timeless fun σ => σ.held = b := fun _ _ h => h

variable (still : cell.Still)
include still

theorem scripted_discreet {place : Cell γ Scripted} (apart : cell.Apart place) (stopping : Bool) :
    Discreet cell view (Scripted.callback place stopping view).run := by
  have hlook : Discreet cell view (liftM (some <$> Scripted.look view) : Callback γ (Option (String × String))).run :=
    .bind .look fun text => .pure (Except.ok (some (view.name, s!"{view.display}: {text}")))
  have hsleep (ms : Nat) : Discreet cell view (liftM (Task.sleep ms : Task γ Unit) : Callback γ Unit).run :=
    .quietly fun m => (Yields.lift (.sleep still (held_timeless m) ms)).of_succeeds fun _ _ h => h
  have hrest (told : Option (String × String)) : Discreet cell view (Scripted.respond place stopping told).run := by
    unfold Scripted.respond
    refine .bind_run (.quietly fun _ => Yields.now_any.of_succeeds fun _ _ h => h) fun now => ?_
    refine .bind_run (.quietly fun _ => (Yields.takeFrom_apart apart _).of_succeeds fun _ _ h => h) fun response => ?_
    refine .bind_run (hsleep response.ms) fun _ => ?_
    split
    · exact .pure _
    · exact .pure _
  unfold Scripted.callback
  refine .bind_run (.quietly fun _ => (Yields.read place).of_succeeds fun _ _ h => h) fun state => ?_
  split
  · exact .bind_run hlook hrest
  · exact .bind_run (.pure _) hrest

end Workloads

/-! ## Controllers -/

open Scenario (Role Stage)
open Scenario.Shared (World machineCell machineCell_undisturbed)

/-- **The controllers of a stage oversee its machine.** -/
theorem role_oversees (role : Role) (i : Nat) (binary : RunningBinary) :
    Oversees (role.controller i (gateway machineCell) (terminator machineCell) binary) machineCell := by
  have still := machineCell_undisturbed.toStill
  have scripted : machineCell.Apart (Stage.scriptedCell i) := fun _ _ => rfl
  have heartbeat : machineCell.Apart (Stage.heartbeatCell i) := fun _ _ => rfl
  constructor
  case gateway => rfl
  case quiet => exact machineCell_undisturbed
  case errors => exact fun _ _ => rfl
  case terminate =>
    intro pid s
    show (machineCell.get s.world).Tends
      (machineCell.get (((if role.powerless then Role.refuse else terminator machineCell) pid).run s).2.world)
    split
    · exact .refl _
    · obtain ⟨r, m', ha, ht⟩ := terminate_tends (machineCell.get s.world) pid
      have hrun : (terminate pid).run.run (machineCell.get s.world) = (r, m') := ha
      show (machineCell.get s.world).Tends ((terminate pid).run.run (machineCell.get s.world)).2
      rwa [hrun]
  case killSignal =>
    intro s
    show machineCell.get (role.killSignal s).2.world = machineCell.get s.world
    unfold Role.killSignal
    cases role.killFault with
    | some reason => rfl
    | none => cases role.killAfter <;> rfl
  case start =>
    show Discreet machineCell _ ((role.workload i).start _).run
    unfold Role.workload
    split
    · exact scripted_discreet still scripted false
    · exact .quietly fun _ => Yields.call (Heartbeat.start_keeps heartbeat)
  case stop =>
    show Discreet machineCell _ ((role.workload i).stop _).run
    unfold Role.workload
    split
    · exact scripted_discreet still scripted true
    · exact .elsewhere fun m => Heartbeat.stop_keeps heartbeat still (held_timeless m)

/-- **A controller of a stage has its error box to itself.** -/
theorem role_secluded (role : Role) (i : Nat) (binary : RunningBinary) :
    Secluded (role.controller i (gateway machineCell) (terminator machineCell) binary) machineCell := by
  have still : (Stage.errorsCell i : Cell World ErrorBox).Still := Stage.errorsCell_still i
  have scripted : (Stage.errorsCell i).Apart (Stage.scriptedCell i : Cell World Scripted) :=
    Stage.errorsCell_apart i fun _ _ => rfl
  have heartbeat : (Stage.errorsCell i).Apart (Stage.heartbeatCell i : Cell World Heartbeat) :=
    Stage.errorsCell_apart i fun _ _ => rfl
  have machine : (Stage.errorsCell i).Apart machineCell := fun _ _ => rfl
  constructor
  case still => exact still
  case get_set => exact Stage.errorsCell_get_set i
  case apart => exact machine
  case start =>
    intro box
    show (Stage.errorsCell i).Keeps _ False ((role.workload i).start _).run
    unfold Role.workload
    split
    · exact Ensures.keeps (Scripted.callback_keeps still (held_timeless box) scripted (status_apart machine rfl) false)
    · exact Ensures.keeps (Yields.call (Heartbeat.start_keeps heartbeat))
  case stop =>
    intro box
    show (Stage.errorsCell i).Keeps _ False ((role.workload i).stop _).run
    unfold Role.workload
    split
    · exact Ensures.keeps (Scripted.callback_keeps still (held_timeless box) scripted (status_apart machine rfl) true)
    · exact Heartbeat.stop_keeps heartbeat still (held_timeless box)

theorem role_finite {role : Role} {state : Scripted} (scripted : role.job = .scripted state)
    (managed : role.interactive = false) (i : Nat) (binary : RunningBinary) :
    Finite (role.controller i (gateway machineCell) (terminator machineCell) binary) := by
  have workload : role.workload i = Workload.scripted (Stage.scriptedCell (G := Scenario.Shared.Bench) i) := by
    unfold Role.workload
    rw [scripted]
  constructor
  case start =>
    intro s
    show (((role.workload i).start _).run.finish s).1.isSome = true
    rw [workload]
    exact Scripted.callback_ends _ _ false s
  case stop =>
    intro s
    show (((role.workload i).stop _).run.finish s).1.isSome = true
    rw [workload]
    exact Scripted.callback_ends _ _ true s
  case killed =>
    intro interactive
    exact absurd (managed.symm.trans interactive) Bool.false_ne_true

end ServiceControl.Memory
