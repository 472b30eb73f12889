import ServiceControl.Proofs.Callbacks
import ServiceControl.Proofs.Recorded.Notes
import ServiceControl.Proofs.Running
/-!
# Recorded gateways of a stage

Scripted gateways know nothing of a log beside them, and scripted workloads do nothing with it but look at the service; so
controllers of a stage that has both are controllers over a recorded gateway (`Logged.records`).
-/
namespace ServiceControl.Recorded

open Cell (Ensures Yields Keeps)

section Scripted

variable {γ S E : Type} {log : Cell γ (List (Note S E))} {cell : Cell γ Scripted.Machine} (apart : log.Apart cell)
include apart

theorem make_spares (kind : Scripted.Kind) (call : Scripted.Call) : Spares log (Scripted.make cell kind call).run := by
  refine .of_ensures fun notes s hs => ⟨_, rfl, ?_⟩
  show log.get (cell.set _ (cell.set _ s.world)) = notes
  rw [apart, apart]
  exact hs

theorem order_spares (kind : Scripted.Kind) (call : Scripted.Call) : Spares log (Scripted.order cell kind call).run := by
  refine Writes.bind_run (make_spares apart kind call) ?_ fun _ _ h => h
  rintro _ _ rfl
  exact .return_run rfl

theorem new_spares {f : Scripted.Machine → Nat × Scripted.Machine} (kind : Scripted.Kind) (call : Scripted.Call) :
    Spares log (do Scripted.order cell kind call; Act.takeFrom cell f : ServiceControl.Call γ Nat).run := by
  refine Writes.bind_run (order_spares apart kind call) ?_ fun _ _ h => h
  rintro _ _ rfl
  exact Writes.lift (Spares.of_ensures fun _ => .takeFrom_apart apart _)

theorem keep_spares (call : Scripted.Call) : Spares log (Scripted.keep cell call) := by
  refine .of_ensures fun notes s hs => ⟨_, rfl, ?_⟩
  show log.get (cell.set _ s.world) = notes
  rw [apart]
  exact hs

theorem giveBack_spares {f : Scripted.Machine → Scripted.Machine} (call : Scripted.Call) :
    Spares log (do Scripted.keep cell call; Act.update cell f : Act γ Unit) :=
  Writes.after_spares (keep_spares apart call) fun _ => Spares.of_ensures fun _ => .update_apart apart _

theorem report_spares (report : StatusReport) : Spares log (Scripted.report cell report) := by
  refine .of_ensures fun notes s hs => ⟨_, rfl, ?_⟩
  show log.get (cell.set _ s.world) = notes
  rw [apart]
  exact hs

variable [Background γ]

theorem dispatch_keeps {name : String} {loop : ControlLoop γ} {P : List (Note S E) → Prop}
    (runs : ∀ report inbox, (∀ r, Spares log (report r)) →
      log.Keeps (fun σ => P σ.held) False (loop.run report inbox)) :
    log.Keeps (fun σ => P σ.held) False (Scripted.dispatch cell name loop).run := by
  have hkeep (call : Scripted.Call) :
      log.Keeps (fun σ => P σ.held) False (liftM (Scripted.keep cell call : Act γ Unit) : Op γ Unit).run :=
    Ensures.keeps (Yields.of_succeeds (.act (Spares.ensures (keep_spares apart call) P)) fun _ _ h => h)
  have hresult (reply : Scripted.Reply) :
      log.Keeps (fun σ => P σ.held) False (do let _ ← (reply : Except ServiceError ServiceStatus) : Op γ Unit).run := by
    cases reply <;> exact .pure _
  unfold Scripted.dispatch
  refine (Yields.takeFrom_apart apart _).keeps.bind_run fun reply _ => ?_
  refine (hkeep _).bind_run fun _ _ => ?_
  refine (Yields.read cell).keeps.bind_run fun m _ => ?_
  split
  · refine (Yields.update_apart apart _).keeps.bind_run fun _ _ => ?_
    refine Yields.now_any.keeps.bind_run fun now _ => ?_
    refine Keeps.bind_run (Keeps.lift (runs _ _ (report_spares apart))) fun exit _ => ?_
    refine (Yields.read cell).keeps.bind_run fun m' _ => ?_
    exact (hkeep _).bind_run fun _ _ => hresult reply
  · exact hresult reply

end Scripted

/-- **A scripted gateway knows nothing of a log beside it.** -/
theorem scripted_unaware {γ : Type} [Background γ] {cell : Cell γ Scripted.Machine} {log : Cell γ (List (Note Nat Nat))}
    (apart : log.Apart cell) : (Scripted.gateway cell).Unaware log where
  connect := new_spares apart _ _
  openEntry _ _ := new_spares apart _ _
  create _ _ := new_spares apart _ _
  query _ := make_spares apart _ _
  start _ := order_spares apart _ _
  control _ _ := make_spares apart _ _
  setRecovery _ _ := order_spares apart _ _
  delete _ := order_spares apart _ _
  closeEntry _ := giveBack_spares apart _
  closeSession _ := giveBack_spares apart _
  registerLogSource _ := order_spares apart _ _
  removeLogSource _ := order_spares apart _ _
  stopTimeout := .of_ensures fun _ _ hs => ⟨_, rfl, hs⟩
  dispatch _ _ _ := dispatch_keeps apart

/-! ## A stage with a log -/

open Scenario (Stage)

/-- A scripted manager with a log beside it. -/
structure Logged where
  machine : Scripted.Machine
  notes : List (Note Nat Nat) := []

namespace Logged

def machineCell : Cell (Stage Logged) Scripted.Machine :=
  Stage.managerCell.inside ⟨(·.machine), fun m l => { l with machine := m }⟩

def log : Cell (Stage Logged) (List (Note Nat Nat)) :=
  Stage.managerCell.inside ⟨(·.notes), fun notes l => { l with notes }⟩

theorem log_undisturbed : log.Undisturbed :=
  Cell.inside_undisturbed Scenario.Stage.managerCell_undisturbed ⟨fun _ _ => rfl, fun _ _ _ => rfl, fun _ => rfl⟩

theorem log_apart : log.Apart machineCell := fun _ _ => rfl

/-- The scripted manager of the stage. -/
def gateway : Gateway (Stage Logged) Nat Nat := Scripted.gateway machineCell

def controller (config : ServiceConfig) : Controller (Stage Logged) Nat Nat where
  gateway := gateway.recorded log
  workload := Workload.scripted (Stage.scriptedCell 0)
  config
  interactive := false
  terminate := Scripted.terminator machineCell
  errors := Stage.errorsCell 0
  triggers := Stage.triggersCell
  binary := .ok "/bin/svc"

theorem records (config : ServiceConfig) : Records (controller config) gateway log where
  gateway := rfl
  unaware := scripted_unaware log_apart
  quiet := log_undisturbed
  terminate _ := order_spares log_apart _ _
  killSignal := .pure rfl
  errors _ _ := rfl
  start _ looks :=
    Ensures.keeps (Workload.Scripted.callback_keeps log_undisturbed.toStill (fun _ _ h => h) (fun _ _ => rfl) looks false)
  stop _ looks :=
    Ensures.keeps (Workload.Scripted.callback_keeps log_undisturbed.toStill (fun _ _ h => h) (fun _ _ => rfl) looks true)

end Logged

end ServiceControl.Recorded
