import ServiceControl.Proofs.Scripted.Conduct
/-!
# What callbacks keep

Beside its own state a scripted workload has a look at its service, and a heartbeat has nothing.  So a scripted callback
keeps elsewhere what such a look keeps (`Scripted.callback_keeps`), and a callback of a heartbeat keeps all there is.
-/
namespace ServiceControl.Workload

open Cell (Ensures Keeps Yields)

variable {γ β : Type} {c : Cell γ β} {P : Sight β → Prop} {view : View γ}

/-! ## Scripted workloads -/

/-- A scripted callback keeps what is kept by looking at the service. -/
theorem Scripted.callback_keeps [Background γ] {place : Cell γ Scripted} (still : c.Still) (timeless : Cell.Timeless P)
    (apart : c.Apart place) (looks : c.Ensures P view.status fun _ => P) (stopping : Bool) :
    c.Yields P (Scripted.callback place stopping view) fun _ => P := by
  have hlook : c.Yields P (liftM (some <$> Scripted.look view) : Callback γ (Option (String × String)))
      (Cell.Succeeds fun _ => P) := by
    refine .act ?_
    rw [map_eq_pure_bind]
    exact (looks.bind fun _ => .pure fun _ hσ => hσ).bind fun _ => .pure fun _ hσ => hσ
  have hrespond (told : Option (String × String)) : c.Yields P (Scripted.respond place stopping told) fun _ => P := by
    unfold Scripted.respond
    refine Yields.now_any.bind_ok fun now => ?_
    refine (Yields.takeFrom_apart apart _).bind_ok fun response => ?_
    refine (Yields.lift (.sleep still timeless response.ms)).bind_ok fun _ => ?_
    split
    · exact .throw fun _ hσ => hσ
    · exact .pure fun _ hσ => hσ
  unfold Scripted.callback
  refine (Yields.read place).bind_ok fun state => ?_
  split
  · exact hlook.bind_ok hrespond
  · exact Yields.bind_ok (R := fun _ => P) (.pure fun _ hσ => hσ) hrespond

/-- A scripted callback always ends. -/
theorem Scripted.callback_ends [Background γ] (place : Cell γ Scripted) (view : View γ) (stopping : Bool)
    (s : Scene γ) : ((Scripted.callback place stopping view).run.finish s).1.isSome = true := by
  let nowhere : Cell γ Unit := ⟨fun _ => (), fun _ w => w⟩
  have still : nowhere.Still := ⟨fun _ _ => rfl, fun _ _ _ => rfl⟩
  have looks : nowhere.Ensures (fun _ => True) view.status fun _ _ => True := fun _ _ => ⟨_, rfl, trivial⟩
  have ends : nowhere.Yields (fun _ => True) (Scripted.callback place stopping view) fun _ _ => True :=
    callback_keeps still (fun _ _ _ => trivial) (fun _ _ => rfl) looks stopping
  obtain ⟨r, hr, -⟩ := ends s trivial
  exact Option.isSome_iff_exists.2 ⟨r, hr⟩

/-! ## Heartbeats -/

namespace Heartbeat

theorem beforeSpawn_keeps (place : Cell γ Heartbeat) : c.Yields P (beforeSpawn place view) fun _ => P := by
  unfold beforeSpawn
  refine (Yields.read place).bind_ok fun h => ?_
  dsimp only
  split
  · exact .throw_bind fun _ hσ => hσ
  · split
    · exact .throw_bind fun _ hσ => hσ
    · exact (Yields.log _ _).of_succeeds fun _ _ hσ => hσ

variable {place : Cell γ Heartbeat} (apart : c.Apart place)
include apart

theorem start_keeps : c.Yields P (start place view) fun _ => P := by
  unfold start
  refine (beforeSpawn_keeps place).bind (fun _ => ?_) fun _ _ hσ => hσ
  exact (Yields.update_apart apart _).of_succeeds fun _ _ hσ => hσ

theorem requestStop_keeps : c.Yields P (requestStop place view) fun _ => P := by
  unfold requestStop
  refine (Yields.log _ _).bind_ok fun _ => (Yields.read place).bind_ok fun h => ?_
  dsimp only
  split
  · exact .throw_bind fun _ hσ => hσ
  · split
    · exact (Yields.log _ _).bind_ok fun _ => .pure fun _ hσ => hσ
    · exact (Yields.update_apart apart _).bind_ok fun _ => .pure fun _ hσ => hσ

/-- To stop a heartbeat is to wait for its beater, maybe for good. -/
theorem stop_keeps [Background γ] (still : c.Still) (timeless : Cell.Timeless P) :
    c.Keeps P False (stop place view).run := by
  have hawait (w : Wait γ) : c.Keeps P False (liftM (Task.await w : Task γ Unit) : Callback γ Unit).run :=
    .lift ((Keeps.await still timeless w).of_ends False.elim)
  have hlog (level : Level) (text : String) : c.Keeps P False (Act.log level text : Callback γ Unit).run :=
    (Yields.log _ _).keeps
  unfold stop
  refine (Ensures.keeps (Yields.call (requestStop_keeps apart))).bind_run fun id _ => ?_
  split
  · exact .pure _
  · refine (hawait _).bind_run fun _ _ => (Yields.read place).keeps.bind_run fun h _ => ?_
    split
    · exact (hlog _ _).bind_run fun _ _ => hlog _ _
    · exact hlog _ _

end Heartbeat

end ServiceControl.Workload
