import ServiceControl.Proofs.Beaters
import ServiceControl.Proofs.Promises
import ServiceControl.Scenario.Calls
import ServiceControl.Scenario.Shared
/-!
# Places on stages

What goes on beside the controllers of a stage are heartbeats.  They touch neither its manager nor the error boxes of its
controllers.
-/
namespace ServiceControl

namespace Scenario

/-! ## The manager -/

theorem Stage.managerCell_undisturbed {G : Type} : (managerCell : Cell (Stage G) G).Undisturbed where
  get_set _ _ := rfl
  set_set _ _ _ := rfl
  set_get _ := rfl
  get_settle _ _ := rfl
  get_pass _ _ _ := rfl

theorem Shared.machineCell_undisturbed : machineCell.Undisturbed :=
  Cell.inside_undisturbed Stage.managerCell_undisturbed ⟨fun _ _ => rfl, fun _ _ _ => rfl, fun _ => rfl⟩

/-! ## What belongs to a controller -/

namespace Stage

variable {G : Type} (i : Nat)

/-- What is put there is there, unless there is no such controller. -/
theorem actorCell_get_set (a : Actor) (w : Stage G) : (actorCell i).get ((actorCell i).set a w) = a ∨
    (actorCell i).get ((actorCell i).set a w) = default ∧ (actorCell i).get w = default := by
  show (w.actors.set i a)[i]?.getD default = a ∨
    (w.actors.set i a)[i]?.getD default = default ∧ w.actors[i]?.getD default = default
  rcases Nat.lt_or_ge i w.actors.length with h | h
  · exact .inl (by simp [h])
  · exact .inr (by simp [h])

/-- What else belongs to a controller is not in its error box. -/
theorem errorsCell_apart {β : Type} {inner : Cell Actor β} (errors : ∀ b a, (inner.set b a).errors = a.errors) :
    (errorsCell i : Cell (Stage G) ErrorBox).Apart ((actorCell i).inside inner) := by
  intro b w
  show ((actorCell i).get ((actorCell i).set (inner.set b ((actorCell i).get w)) w)).errors = ((actorCell i).get w).errors
  rcases actorCell_get_set i (inner.set b ((actorCell i).get w)) w with h | ⟨h, absent⟩
  · rw [h, errors]
  · rw [h, absent]

theorem errorsCell_get_set (box : ErrorBox) (w : Stage G) : (errorsCell i).get ((errorsCell i).set box w) = box ∨
    (errorsCell i).get ((errorsCell i).set box w) = .empty := by
  rcases actorCell_get_set i { (actorCell i).get w with errors := box } w with h | ⟨h, -⟩
  · exact .inl (congrArg Actor.errors h)
  · exact .inr (congrArg Actor.errors h)

/-- An error box is as it was when heartbeats are put back. -/
theorem errorsCell_putHeartbeats (w : Stage G) {hs : List Workload.Heartbeat} (length : hs.length = w.actors.length) :
    (errorsCell i).get (w.putHeartbeats hs) = (errorsCell i).get w := by
  show Actor.errors ((List.zipWith _ w.actors hs)[i]?.getD default) = (w.actors[i]?.getD default).errors
  rw [List.getElem?_zipWith]
  rcases Nat.lt_or_ge i w.actors.length with h | h
  · rw [List.getElem?_eq_getElem h, List.getElem?_eq_getElem (length ▸ h)]
    dsimp only [Option.getD_some]
    split <;> rfl
  · rw [List.getElem?_eq_none h]

theorem errorsCell_still : (errorsCell i : Cell (Stage G) ErrorBox).Still where
  get_settle now w := errorsCell_putHeartbeats i w (by simp [Workload.settleAll, Workload.eachOf, heartbeats])
  get_pass since later w := errorsCell_putHeartbeats i w (by simp [Workload.length_passAll, heartbeats])

end Stage

end Scenario

end ServiceControl
