import ServiceControl.Proofs.Running
import ServiceControl.Proofs.Scripted.Conduct
import ServiceControl.Proofs.Watch
/-!
# What operations keep

Every operation of a controller but a start keeps what the calls of its gateway keep (`Heeds`), if each call keeps it on the
entries that the controller obtains and for the processes that it is told of.  A start, and with it a restart, leads to
what the start call leads to (`start_leads`, `restart_leads`).
-/
namespace ServiceControl.Controller

open Cell (Ensures Yields Either)
open StopTarget (Heeding)

variable {γ β S E α : Type} {place : Cell γ β} {P : Sight β → Prop}

/-- This holds after a call however it went, and an entry that it gives is one of these. -/
def Giving (Mine : E → Prop) (P : Sight β → Prop) : Except ServiceError E → Sight β → Prop :=
  Either (fun entry σ => Mine entry ∧ P σ) fun _ => P

/-- **What each call keeps.**  The entries that are obtained are of this kind, and only processes of this kind are told of,
so that the calls need to keep it for those only. -/
structure Heeds (c : Controller γ S E) (place : Cell γ β) (P : Sight β → Prop) (Mine : E → Prop) (Safe : Nat → Prop) :
    Prop where
  connects : place.Yields P c.gateway.connect fun _ => P
  opens : ∀ session, place.Yields P (c.gateway.openEntry session c.name) (Giving Mine P)
  creates : ∀ session spec, spec.name = c.name → place.Yields P (c.gateway.create session spec) (Giving Mine P)
  queries : ∀ entry, Mine entry → place.Yields P (c.gateway.query entry) (Heeding Safe P)
  controls : ∀ entry, Mine entry → place.Yields P (c.gateway.control entry .stop) (Heeding Safe P)
  recovers : ∀ entry action, Mine entry → place.Yields P (c.gateway.setRecovery entry action) fun _ => P
  deletes : ∀ entry, Mine entry → place.Yields P (c.gateway.delete entry) fun _ => P
  registers : place.Yields P (c.gateway.registerLogSource c.name) fun _ => P
  removes : place.Yields P (c.gateway.removeLogSource c.name) fun _ => P
  closesEntry : ∀ entry, place.Ensures P (c.gateway.closeEntry entry) fun _ => P
  closesSession : ∀ session, place.Ensures P (c.gateway.closeSession session) fun _ => P
  timeouts : place.Ensures P c.gateway.stopTimeout fun _ => P
  ends : ∀ pid, Safe pid → place.Yields P (c.terminate pid) fun _ => P

namespace Heeds

variable {c : Controller γ S E} {Mine : E → Prop} {Safe : Nat → Prop} (h : c.Heeds place P Mine Safe)
include h

/-! ## Installing -/

theorem checkAbsent_keeps (session : S) : place.Yields P (c.checkAbsent session) fun _ => P := by
  unfold checkAbsent
  refine (h.opens session).attempt_bind fun r => ?_
  cases r with
  | ok entry =>
    rintro s ⟨-, hs⟩
    exact Yields.bind_ok (.lift (h.closesEntry entry)) (fun _ => .throw fun _ hσ => hσ) s hs
  | error e =>
    cases e with
    | notInstalled name => exact .pure fun _ hσ => hσ
    | _ => exact .throw fun _ hσ => hσ

theorem registerLogSource_keeps {entry : E} (mine : Mine entry) :
    place.Yields P (c.registerLogSource entry) fun _ => P := by
  unfold registerLogSource
  refine h.registers.attempt_bind fun r => ?_
  cases r with
  | ok _ => exact .pure fun _ hσ => hσ
  | error e =>
    refine (Yields.log _ _).bind_ok fun _ => (h.deletes entry mine).attempt_bind fun r => ?_
    cases r with
    | ok _ => exact .throw fun _ hσ => hσ
    | error rollback => exact .throw fun _ hσ => hσ

theorem install_keeps : place.Yields P c.install fun _ => P := by
  unfold install withSession
  refine (Yields.log _ _).bind_ok fun _ => ?_
  refine h.connects.holding (fun _ _ hσ => hσ) (fun session => ?_) fun session _ => h.closesSession session
  refine (h.checkAbsent_keeps session).bind (fun _ => .result_bind (fun spec resolved => ?_) fun _ _ _ hσ => hσ)
    fun _ _ hσ => hσ
  refine Yields.bind (R := fun _ => P) ?_ (fun _ => (Yields.log _ _).of_succeeds fun _ _ hσ => hσ) fun _ _ hσ => hσ
  refine (h.creates session spec (ServiceSpec.name_ofConfig resolved)).holding (fun _ _ hσ => hσ) (fun entry => ?_)
    fun entry _ => h.closesEntry entry
  rintro s ⟨mine, hs⟩
  refine (h.registerLogSource_keeps mine).bind (fun _ => ?_) (fun _ _ hσ => hσ) s hs
  split
  · refine (h.recovers entry .restartNow mine).attempt_bind fun r => ?_
    cases r with
    | ok _ => exact .pure fun _ hσ => hσ
    | error e => exact (Yields.log _ _).of_succeeds fun _ _ hσ => hσ
  · exact .pure fun _ hσ => hσ

/-! ## Telling the state -/

theorem status_keeps : place.Ensures P c.status fun _ => P := by
  refine Gateway.status_keeps (R := fun _ => P) h.connects (fun _ _ hσ => hσ) (fun session => ?_) h.closesSession
  refine (h.opens session).holding (fun _ _ hσ => hσ) (fun entry => ?_) fun entry _ => h.closesEntry entry
  rintro s ⟨mine, hs⟩
  refine (h.queries entry mine).weaken (fun r σ hσ => ?_) s hs
  cases r with
  | ok status => exact hσ.2
  | error e => exact hσ

/-! ## Starting -/

section Start

variable {Q : Sight β → Prop} (starts : ∀ entry, Mine entry → place.Yields P (c.gateway.start entry) fun _ => Q)
  (unstarted : ∀ σ, P σ → Q σ) (closesEntry : ∀ entry, place.Ensures Q (c.gateway.closeEntry entry) fun _ => Q)
  (closesSession : ∀ session, place.Ensures Q (c.gateway.closeSession session) fun _ => Q)
include starts unstarted closesEntry closesSession

theorem start_leads : place.Yields P c.start fun _ => Q := by
  unfold start withSession
  refine (Yields.log _ _).bind_ok fun _ => Yields.bind (R := fun _ => Q) ?_
    (fun _ => (Yields.log _ _).of_succeeds fun _ _ hσ => hσ) fun _ _ hσ => hσ
  refine h.connects.holding (fun _ => unstarted) (fun session => ?_) fun session _ => closesSession session
  refine (h.opens session).holding (fun _ => unstarted) (fun entry => ?_) fun entry _ => closesEntry entry
  rintro s ⟨mine, hs⟩
  split
  · exact (h.recovers entry .restartNow mine).bind (fun _ => starts entry mine) (fun _ => unstarted) s hs
  · exact starts entry mine s hs

end Start

/-! ## Stopping -/

variable [Background γ]

theorem withEntry_keeps {use : E → Op γ α} (hu : ∀ entry, Mine entry → place.Yields P (use entry) fun _ => P) :
    place.Yields P (c.withEntry use) fun _ => P := by
  unfold withEntry
  refine (Yields.call h.connects).holding (fun _ _ hσ => hσ) (fun session => ?_) fun session _ =>
    Ensures.act (h.closesSession session)
  refine (Yields.call (h.opens session)).holding (fun _ _ hσ => hσ) (fun entry => ?_) fun entry _ =>
    Ensures.act (h.closesEntry entry)
  rintro s ⟨mine, hs⟩
  exact hu entry mine s hs

variable (still : place.Still) (timeless : Cell.Timeless P)
include still timeless

theorem stopEntry_keeps {entry : E} (mine : Mine entry) : place.Yields P (c.stopEntry entry) fun _ => P := by
  have hstop (timeout : Nat) : place.Yields P
      (StopTarget.stopAndWait ⟨c.gateway.control entry, c.gateway.query entry, c.terminate⟩ c.tie timeout) fun _ => P :=
    StopTarget.stopAndWait_heeds h.ends (h.queries entry mine) (h.controls entry mine) still timeless c.tie timeout
  unfold stopEntry
  split
  · refine (Yields.call (h.recovers entry .none mine)).bind (fun _ => ?_) fun _ _ hσ => hσ
    exact (Yields.act h.timeouts).bind_ok hstop
  · exact (Yields.act h.timeouts).bind_ok hstop

theorem stop_keeps : place.Yields P c.stop fun _ => P := by
  unfold stop
  refine (Yields.log _ _).bind_ok fun _ => ?_
  refine (h.withEntry_keeps fun entry mine => h.stopEntry_keeps still timeless mine).bind (fun _ => ?_) fun _ _ hσ => hσ
  exact (Yields.log _ _).of_succeeds fun _ _ hσ => hσ

theorem uninstall_keeps : place.Yields P c.uninstall fun _ => P := by
  unfold uninstall
  refine (Yields.log _ _).bind_ok fun _ => Yields.bind (R := fun _ => P) ?_ (fun _ => ?_) fun _ _ hσ => hσ
  · refine h.withEntry_keeps fun entry mine => (h.stopEntry_keeps still timeless mine).attempt_bind fun r => ?_
    cases r with
    | ok _ => exact Yields.call (h.deletes entry mine)
    | error e => exact (Yields.log _ _).bind_ok fun _ => Yields.call (h.deletes entry mine)
  · refine Yields.attempt_bind (Yields.call h.removes) fun r => ?_
    cases r with
    | ok _ => exact (Yields.log _ _).of_succeeds fun _ _ hσ => hσ
    | error e => exact .throw fun _ hσ => hσ

theorem restart_leads {Q : Sight β → Prop}
    (starts : ∀ entry, Mine entry → place.Yields P (c.gateway.start entry) fun _ => Q) (unstarted : ∀ σ, P σ → Q σ)
    (closesEntry : ∀ entry, place.Ensures Q (c.gateway.closeEntry entry) fun _ => Q)
    (closesSession : ∀ session, place.Ensures Q (c.gateway.closeSession session) fun _ => Q) :
    place.Yields P c.restart fun _ => Q := by
  unfold restart
  refine (h.stop_keeps still timeless).bind (fun _ => ?_) fun _ => unstarted
  exact Yields.call (h.start_leads starts unstarted closesEntry closesSession)

end Heeds

end ServiceControl.Controller
