import ServiceControl.Proofs.Memory.Orders
import ServiceControl.Proofs.Memory.Standing
import ServiceControl.Proofs.Running
import ServiceControl.Proofs.Scripted.Conduct
import ServiceControl.Scenario.Outcome
/-!
# Controllers of a machine

Where the operations of a controller leave a machine, whatever it refuses and whatever its services do.  They give back
what they hold; only an install and an uninstall change what is registered, and how they ended tells in what way
(`install_stands`, `uninstall_stands`).
-/
namespace ServiceControl

namespace Memory

open Cell (Ensures Yields Keeps)

variable {γ : Type} [Background γ]

/-! ## Controllers and their workloads -/

/-- **What a workload does that has only its view of the service**: it leaves the machine alone, or has the state of the
service told. -/
inductive Discreet (cell : Cell γ Machine) (view : View γ) : {α : Type} → Task γ α → Prop
  | elsewhere {α : Type} {x : Task γ α} (h : ∀ m, cell.Keeps (fun σ => σ.held = m) False x) : Discreet cell view x
  | look : Discreet cell view (liftM view.status : Task γ String)
  | bind {α δ : Type} {x : Task γ α} {f : α → Task γ δ} (hx : Discreet cell view x)
      (hf : ∀ a, Discreet cell view (f a)) : Discreet cell view (x >>= f)

/-- A controller whose services are those of the machine in this place, and which does nothing with it beside the gateway
but end processes. -/
structure Oversees (c : Controller γ Unit String) (cell : Cell γ Machine) : Prop where
  gateway : c.gateway = gateway cell
  quiet : cell.Undisturbed
  terminate : ∀ pid s, (cell.get s.world).Tends (cell.get ((c.terminate pid).run s).2.world)
  killSignal : ∀ s, cell.get (c.killSignal s).2.world = cell.get s.world
  errors : cell.Apart c.errors
  start : Discreet cell c.view (c.workload.start c.view).run
  stop : Discreet cell c.view (c.workload.stop c.view).run

/-! ## Ends of operations -/

/-- What is held after an operation, and what is registered then, as far as its result tells. -/
def Leaves {α : Type} (before : Machine) (hold : Hold) (Φ : Except ServiceError α → Roll → Prop)
    (r : Except ServiceError α) (σ : Sight Machine) : Prop :=
  ∃ ρ, Φ r ρ ∧ Stands before hold ρ σ

/-- The errors that say of an entry that it could not be deleted again. -/
def leavesEntry : ServiceError → Bool
  | .rollbackFailed .. => true
  | _ => false

/-- The errors that say of a log source that it stays. -/
def leavesLogSource : ServiceError → Bool
  | .logSourceRemoval .. => true
  | _ => false

/-- **What an install can come to.** -/
inductive Installs (name : String) (ρ : Roll) : Except ServiceError Unit → Roll → Prop
  | refused {e : ServiceError} (whole : leavesEntry e = false) : Installs name ρ (.error e) ρ
  | done (absent : ρ.installed name = false) (unsourced : ρ.sourced name = false) :
      Installs name ρ (.ok ()) ((ρ.enter name).source name)
  | stuck (absent : ρ.installed name = false) (reason rollback : String) :
      Installs name ρ (.error (.rollbackFailed name reason rollback)) (ρ.enter name)

/-- **What an uninstall can come to.** -/
inductive Uninstalls (name : String) (ρ : Roll) : Except ServiceError Unit → Roll → Prop
  | refused {e : ServiceError} (whole : leavesLogSource e = false) : Uninstalls name ρ (.error e) ρ
  | done (installed : ρ.installed name = true) (sourced : ρ.sourced name = true) :
      Uninstalls name ρ (.ok ()) ((ρ.strike name).unsource name)
  | half (installed : ρ.installed name = true) (reason : String) :
      Uninstalls name ρ (.error (.logSourceRemoval name reason)) (ρ.strike name)

theorem Roll.strike_enter {ρ : Roll} {name : String} (absent : ρ.installed name = false) :
    (ρ.enter name).strike name = ρ := by
  refine Roll.ext (funext fun other => ?_) rfl
  show (other != name && (other == name || ρ.installed other)) = ρ.installed other
  by_cases h : other = name
  · rw [h, bne_self_eq_false, Bool.false_and, absent]
  · rw [bne_iff_ne.2 h, beq_eq_false_iff_ne.2 h, Bool.true_and, Bool.false_or]

variable {c : Controller γ Unit String} {cell : Cell γ Machine} (o : Oversees c cell) {before : Machine} {ρ : Roll}
include o

/-! ## Sessions and entries -/

section Holding

variable {α : Type} {Φ : Except ServiceError α → Roll → Prop}

theorem closeSession_leaves (r : Except ServiceError α) :
    cell.Ensures (Leaves before .session Φ r) (c.gateway.closeSession ()) fun _ => Leaves before .nothing Φ r := by
  rintro s ⟨ρ, hΦ, hs⟩
  rw [o.gateway]
  obtain ⟨a, ha, h⟩ := closeSession_stands o.quiet.toLawful s hs
  exact ⟨a, ha, ρ, hΦ, h⟩

theorem closeEntry_leaves (r : Except ServiceError α) (entry : String) :
    cell.Ensures (Leaves before .entry Φ r) (c.gateway.closeEntry entry) fun _ => Leaves before .session Φ r := by
  rintro s ⟨ρ, hΦ, hs⟩
  rw [o.gateway]
  obtain ⟨a, ha, h⟩ := closeEntry_stands o.quiet.toLawful entry s hs
  exact ⟨a, ha, ρ, hΦ, h⟩

theorem withSession_stands {use : Unit → Call γ α} (denied : Φ (.error .permissionDenied) ρ)
    (hu : cell.Yields (Stands before .session ρ) (use ()) (Leaves before .session Φ)) :
    cell.Yields (Stands before .nothing ρ) (c.withSession use) (Leaves before .nothing Φ) := by
  have hconnect : cell.Yields (Stands before .nothing ρ) _ _ := connect_stands o.quiet.toLawful
  rw [← o.gateway] at hconnect
  unfold Controller.withSession
  refine hconnect.holding ?_ (fun _ => hu) fun _ r => closeSession_leaves o r
  rintro e σ ⟨rfl, hσ⟩
  exact ⟨ρ, denied, hσ⟩

theorem holdingEntry_stands {use : String → Call γ α} (absent : Φ (.error (.notInstalled c.name)) ρ)
    (hu : ρ.installed c.name = true → cell.Yields (Stands before .entry ρ) (use c.name) (Leaves before .entry Φ)) :
    cell.Yields (Stands before .session ρ) (holding (c.gateway.openEntry () c.name) c.gateway.closeEntry use)
      (Leaves before .session Φ) := by
  have hopen : cell.Yields (Stands before .session ρ) _ _ := openEntry_stands o.quiet.toLawful c.name
  rw [← o.gateway] at hopen
  refine hopen.holding ?_ ?_ fun entry r => closeEntry_leaves o r entry
  · rintro e σ ⟨rfl, -, hσ⟩
    exact ⟨ρ, absent, hσ⟩
  · rintro entry s ⟨rfl, installed, hs⟩
    exact hu installed s hs

theorem withEntry_stands {use : String → Op γ α} (denied : Φ (.error .permissionDenied) ρ)
    (absent : Φ (.error (.notInstalled c.name)) ρ)
    (hu : ρ.installed c.name = true → cell.Yields (Stands before .entry ρ) (use c.name) (Leaves before .entry Φ)) :
    cell.Yields (Stands before .nothing ρ) (c.withEntry use) (Leaves before .nothing Φ) := by
  have hconnect : cell.Yields (Stands before .nothing ρ) _ _ := connect_stands o.quiet.toLawful
  have hopen : cell.Yields (Stands before .session ρ) _ _ := openEntry_stands o.quiet.toLawful c.name
  rw [← o.gateway] at hconnect hopen
  unfold Controller.withEntry
  refine (Yields.call hconnect).holding ?_ ?_ fun _ r => Ensures.act (closeSession_leaves o r)
  · rintro e σ ⟨rfl, hσ⟩
    exact ⟨ρ, denied, hσ⟩
  · intro _
    refine (Yields.call hopen).holding ?_ ?_ fun entry r => Ensures.act (closeEntry_leaves o r entry)
    · rintro e σ ⟨rfl, -, hσ⟩
      exact ⟨ρ, absent, hσ⟩
    · rintro entry s ⟨rfl, installed, hs⟩
      exact hu installed s hs

end Holding

/-! ## Installing -/

section Install

theorem checkAbsent_stands :
    cell.Yields (Stands before .session ρ) (c.checkAbsent ()) fun r => match r with
      | .ok _ => fun σ => ρ.installed c.name = false ∧ Stands before .session ρ σ
      | .error e => fun σ => leavesEntry e = false ∧ Stands before .session ρ σ := by
  have hopen : cell.Yields (Stands before .session ρ) _ _ := openEntry_stands o.quiet.toLawful c.name
  have hclose (entry : String) : cell.Ensures (Stands before .entry ρ) _ _ := closeEntry_stands o.quiet.toLawful entry
  rw [← o.gateway] at hopen
  unfold Controller.checkAbsent
  refine hopen.attempt_bind ?_
  intro r
  cases r with
  | ok entry =>
    rintro s ⟨-, -, hs⟩
    rw [o.gateway]
    refine Yields.bind_ok (.lift (hclose entry)) (fun _ => ?_) s hs
    exact .throw fun σ hσ => ⟨rfl, hσ⟩
  | error e =>
    rintro s ⟨rfl, absent, hs⟩
    exact Yields.pure (fun σ hσ => ⟨absent, hσ⟩) s hs

/-- A new entry gets its log source, or is deleted again, or is left without one. -/
theorem registerLogSource_leaves (absent : ρ.installed c.name = false) :
    cell.Yields (Stands before .entry (ρ.enter c.name)) (c.registerLogSource c.name)
      (Leaves before .entry (Installs c.name ρ)) := by
  have hsource : cell.Yields (Stands before .entry (ρ.enter c.name)) _ _ :=
    registerLogSource_stands o.quiet.toLawful c.name
  have hdelete : cell.Yields (Stands before .entry (ρ.enter c.name)) _ _ := delete_stands o.quiet.toLawful c.name
  rw [← o.gateway] at hsource hdelete
  unfold Controller.registerLogSource
  refine hsource.attempt_bind ?_
  intro r
  cases r with
  | ok _ => exact .pure fun σ ⟨unsourced, hσ⟩ => ⟨_, .done absent unsourced, hσ⟩
  | error e =>
    refine (Yields.log _ _).bind_ok fun _ => hdelete.attempt_bind ?_
    intro r
    cases r with
    | ok _ =>
      refine .throw fun σ hσ => ⟨ρ, .refused rfl, ?_⟩
      rwa [Roll.strike_enter absent] at hσ
    | error rollback => exact .throw fun σ ⟨_, hσ⟩ => ⟨_, .stuck absent _ _, hσ⟩

theorem equip_leaves (absent : ρ.installed c.name = false) :
    cell.Yields (Stands before .entry (ρ.enter c.name)) (equip c c.name)
      (Leaves before .entry (Installs c.name ρ)) := by
  have hset : cell.Yields (Leaves before .entry (Installs c.name ρ) (.ok ()))
      (c.gateway.setRecovery c.name .restartNow) fun _ => Leaves before .entry (Installs c.name ρ) (.ok ()) := by
    rintro s ⟨ρ', hi, hs⟩
    rw [o.gateway]
    obtain ⟨a, ha, h⟩ := setRecovery_stands o.quiet.toLawful c.name .restartNow s hs
    exact ⟨a, ha, ρ', hi, h⟩
  unfold equip
  refine (registerLogSource_leaves o absent).bind ?_ fun _ _ h => h
  intro _
  split
  · refine hset.attempt_bind fun r => ?_
    cases r with
    | ok _ => exact .pure fun _ hσ => hσ
    | error e => exact (Yields.log _ _).of_succeeds fun _ _ hσ => hσ
  · exact .pure fun _ hσ => hσ

omit [Background γ] o in
theorem whole_of_unresolved {e : ServiceError} (unresolved : ServiceSpec.ofConfig c.binary c.config = .error e) :
    leavesEntry e = false := by
  obtain ⟨reason, rfl⟩ := ServiceSpec.error_ofConfig unresolved
  rfl

/-- **An install comes to its end**: it is refused and nothing is registered, or done and the entry has its log source, or
the entry is stuck without one, and told so. -/
theorem install_stands :
    cell.Yields (Stands before .nothing ρ) c.install (Leaves before .nothing (Installs c.name ρ)) := by
  unfold Controller.install
  refine (Yields.log _ _).bind_ok fun _ => withSession_stands o (.refused rfl) ?_
  refine (checkAbsent_stands o).bind ?_ fun e σ ⟨whole, hσ⟩ => ⟨ρ, .refused whole, hσ⟩
  intro _
  cases hspec : ServiceSpec.ofConfig c.binary c.config with
  | error e =>
    refine (Yields.result _).bind ?_ ?_
    · rintro _ s ⟨h, -⟩
      cases h
    · rintro e' σ ⟨h, -, hσ⟩
      obtain rfl := Except.error.inj h
      exact ⟨ρ, .refused (whole_of_unresolved hspec), hσ⟩
  | ok spec =>
    have hname := name_of_resolved hspec
    have hcreate : cell.Yields (Stands before .session ρ) _ _ := create_stands o.quiet.toLawful spec
    rw [← o.gateway, hname] at hcreate
    have hentry : cell.Yields (Stands before .session ρ)
        (holding (c.gateway.create () spec) c.gateway.closeEntry (equip c))
        (Leaves before .session (Installs c.name ρ)) := by
      refine hcreate.holding ?_ ?_ fun entry r => closeEntry_leaves o r entry
      · rintro e σ ⟨rfl, hσ⟩
        exact ⟨ρ, .refused rfl, hσ⟩
      · rintro entry s ⟨rfl, absent, hs⟩
        exact equip_leaves o absent s hs
    refine (Yields.result _).bind ?_ ?_
    · rintro spec' s ⟨h, -, hs⟩
      obtain rfl := Except.ok.inj h
      refine hentry.bind (fun _ => ?_) (fun _ _ h => h) s hs
      exact (Yields.log _ _).of_succeeds fun _ _ hσ => hσ
    · rintro e' σ ⟨h, -⟩
      cases h

end Install

/-! ## Stopping and uninstalling -/

omit [Background γ] o in
theorem stands_timeless (before : Machine) (hold : Hold) (ρ : Roll) : Cell.Timeless (Stands before hold ρ) :=
  fun _ _ hσ => hσ.retime rfl

theorem stopEntry_stands (entry : String) :
    cell.Yields (Stands before .entry ρ) (c.stopEntry entry) fun _ => Stands before .entry ρ := by
  have hset : cell.Yields (Stands before .entry ρ) _ _ := setRecovery_stands o.quiet.toLawful entry .none
  have hterminate (pid : Nat) :
      cell.Yields (Stands before .entry ρ) (c.terminate pid) fun _ => Stands before .entry ρ :=
    fun s hs => ⟨_, rfl, hs.tends (o.terminate pid s)⟩
  have htimeout : cell.Ensures (Stands before .entry ρ) c.gateway.stopTimeout fun _ => Stands before .entry ρ := by
    rw [o.gateway]
    exact fun s hs => ⟨_, rfl, hs⟩
  rw [← o.gateway] at hset
  unfold Controller.stopEntry
  have hstop (timeout : Nat) : cell.Yields (Stands before .entry ρ)
      (StopTarget.stopAndWait ⟨c.gateway.control entry, c.gateway.query entry, c.terminate⟩ c.tie timeout)
      fun _ => Stands before .entry ρ := by
    rw [o.gateway]
    exact StopTarget.stopAndWait_yields hterminate o.quiet.toStill (stands_timeless _ _ _)
      (query_stands o.quiet.toLawful entry) (control_stands o.quiet.toLawful entry .stop) c.tie timeout
  split
  · refine (Yields.call hset).bind (fun _ => ?_) fun _ _ hσ => hσ
    exact (Yields.act htimeout).bind_ok hstop
  · exact (Yields.act htimeout).bind_ok hstop

/-- What an uninstall does before the log source is removed. -/
def Strikes (name : String) (ρ : Roll) : Except ServiceError Unit → Roll → Prop
  | .ok _, ρ' => ρ.installed name = true ∧ ρ' = ρ.strike name
  | .error e, ρ' => leavesLogSource e = false ∧ ρ' = ρ

/-- **An uninstall comes to its end**: it is refused and nothing is removed, or done and the entry and its log source are
gone, or the log source stays behind, and it is told so. -/
theorem uninstall_stands :
    cell.Yields (Stands before .nothing ρ) c.uninstall (Leaves before .nothing (Uninstalls c.name ρ)) := by
  have hdelete : cell.Yields (Stands before .entry ρ) _ _ := delete_stands o.quiet.toLawful c.name
  have hremove : cell.Yields (Stands before .nothing (ρ.strike c.name)) _ _ :=
    removeLogSource_stands o.quiet.toLawful c.name
  rw [← o.gateway] at hdelete hremove
  have hentry (installed : ρ.installed c.name = true) :
      cell.Yields (Stands before .entry ρ) (c.gateway.delete c.name) (Leaves before .entry (Strikes c.name ρ)) := by
    refine hdelete.weaken ?_
    intro r σ hσ
    cases r with
    | ok _ => exact ⟨_, ⟨installed, rfl⟩, hσ⟩
    | error e =>
      obtain ⟨rfl | rfl, hσ⟩ := hσ
      · exact ⟨ρ, ⟨rfl, rfl⟩, hσ⟩
      · exact ⟨ρ, ⟨rfl, rfl⟩, hσ⟩
  unfold Controller.uninstall
  refine (Yields.log _ _).bind_ok fun _ => ?_
  refine Yields.bind (withEntry_stands (Φ := Strikes c.name ρ) o ⟨rfl, rfl⟩ ⟨rfl, rfl⟩ ?_) ?_ ?_
  · intro installed
    refine (stopEntry_stands o c.name).attempt_bind ?_
    intro r
    cases r with
    | ok _ => exact Yields.call (hentry installed)
    | error e => exact (Yields.log _ _).bind_ok fun _ => Yields.call (hentry installed)
  · rintro _ s ⟨ρ', ⟨installed, rfl⟩, hs⟩
    refine Yields.attempt_bind (Yields.call hremove) ?_ s hs
    intro r
    cases r with
    | ok _ =>
      refine (Yields.log _ _).of_succeeds ?_
      rintro _ σ ⟨sourced, hσ⟩
      exact ⟨_, .done installed sourced, hσ⟩
    | error e => exact .throw fun σ hσ => ⟨_, .half installed _, hσ⟩
  · rintro e σ ⟨ρ', ⟨whole, rfl⟩, hσ⟩
    exact ⟨ρ', .refused whole, hσ⟩

/-! ## Operations that register nothing -/

/-- Nothing is registered and nothing removed. -/
def Unchanged {α : Type} (ρ : Roll) (_ : Except ServiceError α) (ρ' : Roll) : Prop := ρ' = ρ

omit [Background γ] o in
theorem leaves_unchanged {α : Type} {hold : Hold} {r : Except ServiceError α} {σ : Sight Machine} :
    Leaves before hold (Unchanged ρ) r σ ↔ Stands before hold ρ σ := by
  constructor
  · rintro ⟨_, rfl, hσ⟩
    exact hσ
  · exact fun hσ => ⟨ρ, rfl, hσ⟩

theorem start_keeps : cell.Yields (Stands before .nothing ρ) c.start fun _ => Stands before .nothing ρ := by
  have hset : cell.Yields (Stands before .entry ρ) _ _ := setRecovery_stands o.quiet.toLawful c.name .restartNow
  have hstart : cell.Yields (Stands before .entry ρ) _ _ := start_stands o.quiet.toLawful c.name
  rw [← o.gateway] at hset hstart
  have hentry : cell.Yields (Stands before .entry ρ) (startEntry c c.name) (Leaves before .entry (Unchanged ρ)) := by
    refine Yields.weaken ?_ fun _ _ => leaves_unchanged.2
    unfold startEntry
    split
    · exact hset.bind (fun _ => hstart) fun _ _ hσ => hσ
    · exact hstart
  have hsession : cell.Yields (Stands before .nothing ρ) (c.withSession fun session =>
      holding (c.gateway.openEntry session c.name) c.gateway.closeEntry (startEntry c))
      (Leaves before .nothing (Unchanged ρ)) :=
    withSession_stands o rfl (holdingEntry_stands o rfl fun _ => hentry)
  unfold Controller.start
  refine (Yields.log _ _).bind_ok fun _ => (hsession.weaken fun _ _ => leaves_unchanged.1).bind (fun _ => ?_) ?_
  · exact (Yields.log _ _).of_succeeds fun _ _ hσ => hσ
  · exact fun _ _ hσ => hσ

theorem stop_keeps : cell.Yields (Stands before .nothing ρ) c.stop fun _ => Stands before .nothing ρ := by
  have hentry : cell.Yields (Stands before .nothing ρ) (c.withEntry c.stopEntry)
      (Leaves before .nothing (Unchanged ρ)) := by
    refine withEntry_stands o rfl rfl fun _ => ?_
    exact (stopEntry_stands o c.name).weaken fun _ _ => leaves_unchanged.2
  unfold Controller.stop
  refine (Yields.log _ _).bind_ok fun _ => (hentry.weaken fun _ _ => leaves_unchanged.1).bind (fun _ => ?_) ?_
  · exact (Yields.log _ _).of_succeeds fun _ _ hσ => hσ
  · exact fun _ _ hσ => hσ

theorem restart_keeps : cell.Yields (Stands before .nothing ρ) c.restart fun _ => Stands before .nothing ρ := by
  unfold Controller.restart
  exact (stop_keeps o).bind (fun _ => Yields.call (start_keeps o)) fun _ _ hσ => hσ

/-- **To tell the state of the service gives back what it takes.** -/
theorem status_keeps : cell.Ensures (Stands before .nothing ρ) c.status fun _ => Stands before .nothing ρ := by
  have hconnect : cell.Yields (Stands before .nothing ρ) _ _ := connect_stands o.quiet.toLawful
  have hquery : cell.Yields (Stands before .entry ρ) _ _ := query_stands o.quiet.toLawful c.name
  have hclose : cell.Ensures (Stands before .session ρ) _ _ := closeSession_stands o.quiet.toLawful
  rw [← o.gateway] at hconnect hquery hclose
  have hlook : cell.Yields (Stands before .session ρ) _ (Leaves before .session (Unchanged ρ)) :=
    holdingEntry_stands o rfl fun _ => hquery.weaken fun _ _ => leaves_unchanged.2
  unfold Controller.status
  refine Gateway.status_keeps hconnect (fun _ _ h => h.2) (fun _ => ?_) fun _ => hclose
  exact hlook.weaken fun _ _ => leaves_unchanged.1

/-! ## Running -/

omit o in
/-- A discreet program keeps what a look at the service keeps. -/
theorem Discreet.keeps {α : Type} {x : Task γ α} {view : View γ} {P : Sight Machine → Prop} (d : Discreet cell view x)
    (timeless : Cell.Timeless P) (looks : cell.Ensures P view.status fun _ => P) : cell.Keeps P False x := by
  induction d with
  | elsewhere h => exact .of_held h timeless
  | look => exact (Ensures.act looks).keeps
  | bind _ _ hx hf => exact hx.bind fun a _ => hf a

/-- What has a run end: the callbacks of the workload do, and so does the wait for the kill signal of an interactive run,
at an instant that is set. -/
structure Finite (c : Controller γ Unit String) : Prop where
  start : ∀ s, ((c.workload.start c.view).run.finish s).1.isSome = true
  stop : ∀ s, ((c.workload.stop c.view).run.finish s).1.isSome = true
  killed : c.interactive = true → ∀ s, (c.killSignal s).1.due.isSome = true

omit o in
/-- A dispatch keeps what is kept by taking its signals and its failure, by the reports, and by the callbacks. -/
theorem dispatch_keeps {P : Sight Machine → Prop} {ends : Prop} {name : String} {loop : ControlLoop γ}
    (quiet : cell.Undisturbed) (timeless : Cell.Timeless P) (scripts : cell.Yields P (asking cell takeScript) fun _ => P)
    (faults : cell.Yields P (asking cell takeFault) fun _ => P)
    (reports : ∀ report, cell.Ensures P (onMachine cell (keepReport report)) fun _ => P)
    (errors : cell.Apart loop.errors) (starts : cell.Keeps P ends (loop.workload.start loop.view).run)
    (stops : cell.Keeps P ends (loop.workload.stop loop.view).run) :
    cell.Keeps P ends (dispatch cell name loop).run := by
  unfold dispatch
  refine (Ensures.keeps (Yields.call scripts)).bind_run fun script _ => ?_
  refine (Yields.log _ _).keeps.bind_run fun _ _ => ?_
  refine Yields.now_any.keeps.bind_run fun now _ => ?_
  refine Keeps.bind_run (Keeps.lift ?_) fun _ _ => Ensures.keeps (Yields.call faults)
  exact ControlLoop.run_keeps reports (fun _ => .update_apart errors _) stops quiet.toStill timeless starts fun _ => rfl

/-- **A run keeps what a look at the service and the parts of a dispatch keep**, also while it waits for good. -/
theorem Oversees.run_keeps {P : Sight Machine → Prop} (timeless : Cell.Timeless P)
    (looks : cell.Ensures P c.status fun _ => P) (scripts : cell.Yields P (asking cell takeScript) fun _ => P)
    (faults : cell.Yields P (asking cell takeFault) fun _ => P)
    (reports : ∀ report, cell.Ensures P (onMachine cell (keepReport report)) fun _ => P) :
    cell.Keeps P (Finite c) c.run.run := by
  have starts : cell.Keeps P (Finite c) (c.workload.start c.view).run :=
    (o.start.keeps timeless looks).ending Finite.start
  have stops : cell.Keeps P (Finite c) (c.workload.stop c.view).run := (o.stop.keeps timeless looks).ending Finite.stop
  have kills : cell.Ensures P c.killSignal fun _ => P := by
    intro s hs
    refine ⟨_, rfl, ?_⟩
    have hP := timeless _ (c.killSignal s).2.now hs
    have same : (cell.sight s).held = cell.get (c.killSignal s).2.world := (o.killSignal s).symm
    rwa [same] at hP
  refine Controller.run_keeps o.errors o.quiet.toStill timeless starts stops kills ?_ Finite.killed
  rw [o.gateway]
  exact dispatch_keeps o.quiet timeless scripts faults reports o.errors starts stops

/-- **A run registers nothing and gives back what its workload takes to look at the service**, also while it waits for
good. -/
theorem run_stands : cell.Keeps (Stands before .nothing ρ) (Finite c) c.run.run :=
  o.run_keeps (stands_timeless _ _ _) (status_keeps o) (asking_tends o.quiet.toLawful takeScript_tends)
    (asking_tends o.quiet.toLawful takeFault_tends)
    fun report => onMachine_ensures o.quiet.toLawful fun σ hσ => hσ.tends (keepReport_tends σ.held report)

/-! ## Orders -/

/-- What a controller does when it is ordered to. -/
def carryOut (c : Controller γ Unit String) : Scenario.Order → Op γ Unit
  | .install => c.install
  | .uninstall => c.uninstall
  | .start => c.start
  | .stop => c.stop
  | .restart => c.restart
  | .run => c.run
  | .status => do let _ ← c.status

/-- **What an order changes in what is registered**, if it comes to its end with this result. -/
def Affects (order : Scenario.Order) (name : String) (ρ : Roll) (r : Except ServiceError Unit) (ρ' : Roll) : Prop :=
  match order with
  | .install => Installs name ρ r ρ'
  | .uninstall => Uninstalls name ρ r ρ'
  | _ => ρ' = ρ

/-- What there is after an order that began where nothing was held.  One that waits for good has registered nothing. -/
structure Carried (c : Controller γ Unit String) (order : Scenario.Order) (before : Machine) (ρ : Roll)
    (r : Option (Except ServiceError Unit)) (σ : Sight Machine) : Prop where
  stands : ∃ ρ', Stands before .nothing ρ' σ ∧ (r = none → ρ' = ρ) ∧ ∀ result, r = some result → Affects order c.name ρ result ρ'
  ends : (order = .run → Finite c) → r.isSome = true

theorem carryOut_carried (order : Scenario.Order) (s : Scene γ) (hs : Stands before .nothing ρ (cell.sight s)) :
    Carried c order before ρ ((carryOut c order).run.finish s).1 (cell.sight ((carryOut c order).run.finish s).2) := by
  have ended {x : Op γ Unit} {Q : Except ServiceError Unit → Sight Machine → Prop}
      (hx : cell.Yields (Stands before .nothing ρ) x Q)
      (hQ : ∀ r σ, Q r σ → ∃ ρ', Stands before .nothing ρ' σ ∧ Affects order c.name ρ r ρ') :
      Carried c order before ρ (x.run.finish s).1 (cell.sight (x.run.finish s).2) := by
    obtain ⟨r, hr, h⟩ := hx s hs
    obtain ⟨ρ', hσ, ha⟩ := hQ r _ h
    have hr : (x.run.finish s).1 = some r := hr
    refine ⟨⟨ρ', hσ, ?_, ?_⟩, ?_⟩
    · intro never
      rw [hr] at never
      cases never
    · intro result hresult
      rw [hr] at hresult
      obtain rfl := Option.some.inj hresult
      exact ha
    · intro _
      rw [hr]
      rfl
  cases order with
  | install => exact ended (Yields.call (install_stands o)) fun _ _ ⟨ρ', ha, hσ⟩ => ⟨ρ', hσ, ha⟩
  | uninstall => exact ended (uninstall_stands o) fun _ _ ⟨ρ', ha, hσ⟩ => ⟨ρ', hσ, ha⟩
  | start => exact ended (Yields.call (start_keeps o)) fun _ _ hσ => ⟨ρ, hσ, rfl⟩
  | stop => exact ended (stop_keeps o) fun _ _ hσ => ⟨ρ, hσ, rfl⟩
  | restart => exact ended (restart_keeps o) fun _ _ hσ => ⟨ρ, hσ, rfl⟩
  | status =>
    have hstatus : cell.Yields (Stands before .nothing ρ) (carryOut c .status) fun _ => Stands before .nothing ρ :=
      (Yields.act (status_keeps o)).bind_ok fun _ => .pure fun _ hσ => hσ
    exact ended hstatus fun _ _ hσ => ⟨ρ, hσ, rfl⟩
  | run =>
    obtain ⟨hσ, ends⟩ := run_stands o s hs
    exact ⟨⟨ρ, hσ, fun _ => rfl, fun _ _ => rfl⟩, fun finite => Option.isSome_iff_exists.2 (ends (finite rfl))⟩

end Memory

end ServiceControl
