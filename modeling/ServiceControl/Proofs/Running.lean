import ServiceControl.Controller
import ServiceControl.Proofs.Promises
/-!
# What runs keep

A run of a control loop keeps what its reports and the callbacks of its workload keep, and a run of a controller what these
and its dispatch keep, also while it waits for good.  It ends if they do.
-/
namespace ServiceControl

open Cell (Ensures Yields Keeps)

/-! ## Control loops -/

namespace ControlLoop

variable {γ β : Type} [Background γ] {place : Cell γ β} {P : Sight β → Prop} {ends : Prop} {l : ControlLoop γ}
  {report : StatusReport → Act γ Unit} (reports : ∀ r, place.Ensures P (report r) fun _ => P)
  (fails : ∀ failure, place.Ensures P (l.fail failure) fun _ => P)

section Stop

variable (stops : place.Keeps P ends (l.workload.stop l.view).run)
include reports fails stops

theorem stopWorkload_keeps (signal : ControlSignal) : place.Keeps P ends (l.stopWorkload report signal) := by
  unfold stopWorkload
  refine (Ensures.log _ _).keeps.bind fun _ _ => ?_
  refine (Ensures.act (reports _)).keeps.bind fun _ _ => ?_
  refine stops.bind fun r _ => ?_
  cases r with
  | ok _ => exact .pure _
  | error failure =>
    refine (Ensures.log _ _).keeps.bind fun _ _ => ?_
    refine (Ensures.act (fails failure)).keeps.bind fun _ _ => ?_
    exact .pure _

variable (still : place.Still) (timeless : Cell.Timeless P)
include still timeless

theorem serve_keeps {closes : Option Nat} (closing : ends → closes.isSome = true)
    (signals : List (Nat × ControlSignal)) : place.Keeps P ends (l.serve report closes signals) := by
  induction signals with
  | nil =>
    unfold serve
    refine ((Keeps.await still timeless _).of_ends closing).bind fun _ _ => ?_
    refine (Ensures.log _ _).keeps.bind fun _ _ => ?_
    exact stopWorkload_keeps reports fails stops .shutdown
  | cons s signals ih =>
    obtain ⟨arrival, signal⟩ := s
    unfold serve
    refine (Ensures.sleepUntil still timeless arrival).keeps.bind fun _ _ => ?_
    cases signal with
    | stop => exact stopWorkload_keeps reports fails stops .stop
    | shutdown => exact stopWorkload_keeps reports fails stops .shutdown
    | interrogate => exact (Ensures.act (reports _)).keeps.bind fun _ _ => ih
    | _ => exact (Ensures.log _ _).keeps.bind fun _ _ => ih

/-- **A run keeps what its reports and the callbacks of its workload keep**, and ends if they do and the inbox closes. -/
theorem run_keeps (starts : place.Keeps P ends (l.workload.start l.view).run) {inbox : Inbox}
    (closing : ends → inbox.closes.isSome = true) : place.Keeps P ends (l.run report inbox) := by
  have drives : place.Keeps P ends (l.drive report inbox) := by
    unfold drive
    refine (Ensures.act (reports _)).keeps.bind fun _ _ => ?_
    refine starts.bind fun r _ => ?_
    cases r with
    | ok _ =>
      refine (Ensures.act (reports _)).keeps.bind fun _ _ => ?_
      refine (Ensures.log _ _).keeps.bind fun _ _ => ?_
      exact serve_keeps reports fails stops still timeless closing _
    | error failure =>
      refine (Ensures.log _ _).keeps.bind fun _ _ => ?_
      refine (Ensures.act (fails failure)).keeps.bind fun _ _ => ?_
      exact .pure _
  unfold run
  refine drives.bind fun exit _ => ?_
  refine (Ensures.act (reports _)).keeps.bind fun _ _ => ?_
  refine (Ensures.log _ _).keeps.bind fun _ _ => ?_
  exact .pure _

end Stop

end ControlLoop

/-! ## Controllers -/

namespace Controller

variable {γ β S E : Type} [Background γ] {place : Cell γ β} {P : Sight β → Prop} {ends : Prop} {c : Controller γ S E}
  (apart : place.Apart c.errors)
include apart

theorem runDispatched_keeps
    (dispatches : place.Keeps P ends (c.gateway.dispatch c.name ⟨c.workload, c.view, c.errors⟩).run) :
    place.Keeps P ends c.runDispatched.run := by
  unfold runDispatched
  refine Keeps.bind_run dispatches.attempt fun dispatched _ => ?_
  refine (Yields.takeFrom_apart apart _).keeps.bind_run fun kept _ => ?_
  cases kept with
  | some e => exact .pure _
  | none => exact .pure _

variable (still : place.Still) (timeless : Cell.Timeless P)
  (starts : place.Keeps P ends (c.workload.start c.view).run) (stops : place.Keeps P ends (c.workload.stop c.view).run)
  (kills : place.Ensures P c.killSignal fun _ => P)
include still timeless starts stops kills

omit apart in
theorem runInteractive_keeps (killed : ends → ∀ s, (c.killSignal s).1.due.isSome = true) :
    place.Keeps P ends c.runInteractive.run := by
  have hkill : place.Keeps P ends (liftM c.killSignal : Op γ (Wait γ)).run := (Ensures.act kills).keeps.lift
  have hstop : place.Keeps P ends (Workload.asOp (c.workload.stop c.view)).run := stops.map _
  unfold runInteractive
  refine (Yields.log _ _).keeps.bind_run fun _ _ => ?_
  refine Keeps.bind_run (starts.map _) fun _ _ => ?_
  refine hkill.bind_run fun kill hkilled => ?_
  obtain ⟨s, hs⟩ := hkilled
  obtain rfl : (c.killSignal s).1 = kill := Except.ok.inj (Option.some.inj hs)
  refine Keeps.bind_run (Keeps.lift ((Keeps.await still timeless _).of_ends ?_)) fun _ _ => ?_
  · intro hends
    obtain ⟨instant, due⟩ := Option.isSome_iff_exists.1 (killed hends s)
    show (Wait.sooner (c.killSignal s).1.due none).isSome = true
    rw [due]
    rfl
  · refine Yields.get.keeps.bind_run fun scene _ => ?_
    split
    · exact (Yields.log _ _).keeps.bind_run fun _ _ => hstop
    · exact (Yields.log _ _).keeps.bind_run fun _ _ => hstop

/-- **A run keeps what its parts keep**, also while it waits for good.  An interactive one ends if there is an instant at
which its kill signal comes. -/
theorem run_keeps (dispatches : place.Keeps P ends (c.gateway.dispatch c.name ⟨c.workload, c.view, c.errors⟩).run)
    (killed : ends → c.interactive = true → ∀ s, (c.killSignal s).1.due.isSome = true) :
    place.Keeps P ends c.run.run := by
  unfold run
  refine (Yields.update_apart apart _).keeps.bind_run fun _ _ => ?_
  cases hi : c.interactive with
  | true =>
    rw [if_pos rfl]
    exact runInteractive_keeps still timeless starts stops kills fun hends => killed hends hi
  | false =>
    rw [if_neg Bool.false_ne_true]
    exact runDispatched_keeps apart dispatches

end Controller

end ServiceControl
