import Mathlib.Control.Monad.Basic
import ServiceControl.Proofs.Memory.Neighbours
import ServiceControl.Proofs.Memory.Pairing
/-!
# Orphaned log sources

An uninstall that could not remove the log source leaves it without an entry, and no operation of a controller leads out
of that: a log source is removed only after its entry, and an entry is kept only with a new log source.  Main statement:
`orphans_stay`.
-/
namespace ServiceControl.Memory

open Cell (Ensures Yields Succeeds Fails Either)

/-- **A log source without an entry.** -/
structure Roll.Orphan (ρ : Roll) (name : String) : Prop where
  absent : ρ.installed name = false
  sourced : ρ.sourced name = true

/-- What is done under another name leaves it so. -/
theorem Roll.Orphan.spared {m m' : Machine} {name other : String} (h : m.roll.Orphan name) (spares : m.Spares other m')
    (hne : name ≠ other) : m'.roll.Orphan name where
  absent := by
    have absent : m.isInstalled name = false := h.absent
    show m'.isInstalled name = false
    rw [Machine.isInstalled, NameMap.has] at absent ⊢
    rwa [spares.entries name hne]
  sourced := (spares.sources name hne).trans h.sourced

/-- There is no entry to be found. -/
theorem Roll.Orphan.unfound {m : Machine} {name : String} (h : m.roll.Orphan name) : m.services.find? name = none :=
  Option.isNone_iff_eq_none.1 (Option.isSome_eq_false_iff.1 h.absent)

/-! ## What its controller comes to -/

/-- Nothing was found. -/
def Turned (name : String) (e : ServiceError) (ρ : Roll) : Prop :=
  (e = .permissionDenied ∨ e = .notInstalled name) ∧ ρ.Orphan name

/-- An install that leaves no entry behind. -/
def Barred (name : String) (e : ServiceError) : Prop :=
  e = .permissionDenied ∨ (∃ reason : String, e = .manager s!"failed to resolve executable path: {reason}") ∨
    ∃ reason, e = .logSourceRegistration name reason

/-- **An install fails**, and leaves an entry behind only if it says so. -/
def Undone (name : String) (e : ServiceError) (ρ : Roll) : Prop :=
  (∃ reason rollback, e = .rollbackFailed name reason rollback) ∨ Barred name e ∧ ρ.Orphan name

section Controller

variable {γ : Type} [Background γ] {α : Type} {c : Controller γ Unit String} {cell : Cell γ Machine}
  (o : Oversees c cell) {name : String} {Ψ : ServiceError → Roll → Prop}
include o

/-! ### Calls -/

theorem connect_orphan : cell.Yields (fun σ => σ.held.roll.Orphan name) c.gateway.connect
    (Either (fun _ σ => σ.held.roll.Orphan name) fun e σ => e = .permissionDenied ∧ σ.held.roll.Orphan name) := by
  rw [o.gateway]
  refine asking_yields o.quiet.toLawful fun σ hσ => ?_
  cases h : σ.held.deniesAccess with
  | true => exact ⟨_, _, connect_denied h, rfl, hσ⟩
  | false => exact ⟨_, _, connect_granted h, hσ⟩

theorem openEntry_orphan (session : Unit) :
    cell.Yields (fun σ => σ.held.roll.Orphan name) (c.gateway.openEntry session name)
      (Fails fun e σ => e = .notInstalled name ∧ σ.held.roll.Orphan name) := by
  rw [o.gateway]
  exact asking_yields o.quiet.toLawful fun σ hσ => ⟨_, _, openEntry_absent hσ.unfound, rfl, hσ⟩

theorem create_orphan (session : Unit) (spec : ServiceSpec) :
    cell.Yields (fun σ => σ.held.roll.Orphan spec.name) (c.gateway.create session spec)
      (Succeeds fun entry σ => entry = spec.name ∧ σ.held.roll.sourced spec.name = true) := by
  rw [o.gateway]
  exact asking_yields o.quiet.toLawful fun σ hσ => ⟨_, _, create_free hσ.unfound, rfl, hσ.sourced⟩

theorem registerSource_refused : cell.Yields (fun σ => σ.held.roll.sourced name = true)
    (c.gateway.registerLogSource name) (Fails fun _ σ => σ.held.roll.sourced name = true) := by
  rw [o.gateway]
  refine asking_yields o.quiet.toLawful fun σ hσ => ⟨_, _, registerLogSource_refused ?_, hσ⟩
  exact Bool.or_eq_true_iff.2 (.inr hσ)

theorem delete_orphans : cell.Yields (fun σ => σ.held.roll.sourced name = true) (c.gateway.delete name)
    (Either (fun _ σ => σ.held.roll.Orphan name) fun _ _ => True) := by
  rw [o.gateway]
  refine asking_yields o.quiet.toLawful fun σ hσ => ?_
  cases hf : σ.held.failsDelete with
  | true => exact ⟨_, _, delete_refused hf, trivial⟩
  | false =>
    cases h : σ.held.services.find? name with
    | none => exact ⟨_, _, delete_absent hf h, trivial⟩
    | some s =>
      refine ⟨_, _, delete_found hf h, ?_, hσ⟩
      have struck := congrArg (Roll.installed · name) (σ.held.roll_erase name)
      exact struck.trans (by simp [Roll.strike])

/-- What is given back changes nothing that is registered. -/
theorem giveBack_fails {f : StateM Machine Unit} (rolls : ∀ m, (f.run m).2.roll = m.roll)
    (r : Except ServiceError α) : cell.Ensures (Fails (fun e σ => Ψ e σ.held.roll) r) (onMachine cell f)
      fun _ => Fails (fun e σ => Ψ e σ.held.roll) r := by
  refine onMachine_ensures o.quiet.toLawful fun σ hσ => ?_
  cases r with
  | ok a => exact hσ
  | error e =>
    have hΨ : Ψ e σ.held.roll := hσ
    rwa [← rolls] at hΨ

theorem closeEntry_fails (entry : String) (r : Except ServiceError α) :
    cell.Ensures (Fails (fun e σ => Ψ e σ.held.roll) r) (c.gateway.closeEntry entry)
      fun _ => Fails (fun e σ => Ψ e σ.held.roll) r := by
  rw [o.gateway]
  exact giveBack_fails o (fun _ => rfl) r

theorem closeSession_fails (session : Unit) (r : Except ServiceError α) :
    cell.Ensures (Fails (fun e σ => Ψ e σ.held.roll) r) (c.gateway.closeSession session)
      fun _ => Fails (fun e σ => Ψ e σ.held.roll) r := by
  rw [o.gateway]
  exact giveBack_fails o (fun _ => rfl) r

/-! ### Operations with an entry -/

/-- A session is denied, or its use fails. -/
theorem withSession_fails {use : Unit → Call γ α} (denied : ∀ ρ, Roll.Orphan ρ name → Ψ .permissionDenied ρ)
    (hu : ∀ session, cell.Yields (fun σ => σ.held.roll.Orphan name) (use session) (Fails fun e σ => Ψ e σ.held.roll)) :
    cell.Yields (fun σ => σ.held.roll.Orphan name) (c.withSession use) (Fails fun e σ => Ψ e σ.held.roll) := by
  unfold Controller.withSession
  refine (connect_orphan o).holding ?_ hu (closeSession_fails o)
  rintro e σ ⟨rfl, hσ⟩
  exact denied _ hσ

/-- There is no entry to be used. -/
theorem openEntry_turned (session : Unit) :
    cell.Yields (fun σ => σ.held.roll.Orphan c.name) (c.gateway.openEntry session c.name)
      (Fails fun e σ => Turned c.name e σ.held.roll) := by
  refine (openEntry_orphan o session).weaken fun r σ hσ => ?_
  cases r with
  | ok entry => exact hσ
  | error e => exact ⟨.inr hσ.1, hσ.2⟩

theorem start_turned : cell.Yields (fun σ => σ.held.roll.Orphan c.name) c.start
    (Fails fun e σ => Turned c.name e σ.held.roll) := by
  unfold Controller.start
  refine (Yields.log _ _).bind_ok fun _ => Yields.bind_fails ?_
  refine withSession_fails o (fun _ orphan => ⟨.inl rfl, orphan⟩) fun session => ?_
  exact (openEntry_turned o session).holding_fails

theorem withEntry_turned {use : String → Op γ α} : cell.Yields (fun σ => σ.held.roll.Orphan c.name) (c.withEntry use)
    (Fails fun e σ => Turned c.name e σ.held.roll) := by
  unfold Controller.withEntry
  refine (Yields.call (connect_orphan o)).holding ?_ (fun session => ?_) fun session r =>
    Ensures.act (closeSession_fails o session r)
  · rintro e σ ⟨rfl, hσ⟩
    exact ⟨.inl rfl, hσ⟩
  · exact (Yields.call (openEntry_turned o session)).holding_fails

theorem stop_turned : cell.Yields (fun σ => σ.held.roll.Orphan c.name) c.stop
    (Fails fun e σ => Turned c.name e σ.held.roll) := by
  unfold Controller.stop
  exact (Yields.log _ _).bind_ok fun _ => (withEntry_turned o).bind_fails

theorem restart_turned : cell.Yields (fun σ => σ.held.roll.Orphan c.name) c.restart
    (Fails fun e σ => Turned c.name e σ.held.roll) := by
  unfold Controller.restart
  exact (stop_turned o).bind_fails

/-- **The log source is not tried where there is no entry.** -/
theorem uninstall_turned : cell.Yields (fun σ => σ.held.roll.Orphan c.name) c.uninstall
    (Fails fun e σ => Turned c.name e σ.held.roll) := by
  unfold Controller.uninstall
  exact (Yields.log _ _).bind_ok fun _ => (withEntry_turned o).bind_fails

/-! ### Installing -/

theorem checkAbsent_orphan (session : Unit) : cell.Yields (fun σ => σ.held.roll.Orphan c.name) (c.checkAbsent session)
    (Succeeds fun _ σ => σ.held.roll.Orphan c.name) := by
  unfold Controller.checkAbsent
  refine (openEntry_orphan o session).attempt_bind fun r => ?_
  cases r with
  | ok entry => exact fun _ hs => hs.elim
  | error e =>
    rintro s ⟨rfl, hs⟩
    exact Yields.pure (fun _ hσ => hσ) s hs

/-- A log source that is there is not registered, and the entry is deleted again. -/
theorem registerLogSource_undone : cell.Yields (fun σ => σ.held.roll.sourced c.name = true) (c.registerLogSource c.name)
    (Fails fun e σ => Undone c.name e σ.held.roll) := by
  unfold Controller.registerLogSource
  refine (registerSource_refused o).attempt_bind fun r => ?_
  cases r with
  | ok _ => exact fun _ hs => hs.elim
  | error e =>
    refine (Yields.log _ _).bind_ok fun _ => (delete_orphans o).attempt_bind fun r => ?_
    cases r with
    | ok _ => exact .throw fun σ hσ => .inr ⟨.inr (.inr ⟨_, rfl⟩), hσ⟩
    | error rollback => exact .throw fun σ _ => .inl ⟨_, _, rfl⟩

theorem install_undone : cell.Yields (fun σ => σ.held.roll.Orphan c.name) c.install
    (Fails fun e σ => Undone c.name e σ.held.roll) := by
  unfold Controller.install
  refine (Yields.log _ _).bind_ok fun _ => ?_
  refine withSession_fails o (fun _ orphan => .inr ⟨.inl rfl, orphan⟩) fun session => ?_
  refine (checkAbsent_orphan o session).bind_ok fun _ => ?_
  refine .result_bind (fun spec resolved => ?_) fun e unresolved σ hσ => ?_
  · have named : spec.name = c.name := ServiceSpec.name_ofConfig resolved
    have hcreate := create_orphan o session spec
    rw [named] at hcreate
    refine Yields.bind_fails (hcreate.holding (fun _ _ h => h.elim) (fun entry => ?_) (closeEntry_fails o))
    rintro s ⟨rfl, hs⟩
    exact (registerLogSource_undone o).bind_fails s hs
  · obtain ⟨reason, rfl⟩ := ServiceSpec.error_ofConfig unresolved
    exact .inr ⟨.inr (.inl ⟨reason, rfl⟩), hσ⟩

/-! ### Telling the state and running -/

theorem status_orphan : cell.Ensures (fun σ => σ.held.roll.Orphan c.name) c.status
    fun _ σ => σ.held.roll.Orphan c.name := by
  refine Gateway.status_keeps (connect_orphan o) (fun _ _ h => h.2) (fun session => ?_) fun session => ?_
  · refine (openEntry_orphan o session).holding_fails.weaken fun r σ hσ => ?_
    cases r with
    | ok _ => exact hσ.elim
    | error e => exact hσ.2
  · rw [o.gateway]
    exact onMachine_ensures o.quiet.toLawful fun σ hσ => hσ

theorem run_orphan : cell.Keeps (fun σ => σ.held.roll.Orphan c.name) (Finite c) c.run.run := by
  have lawful := o.quiet.toLawful
  refine o.run_keeps (fun _ _ hσ => hσ) (status_orphan o) ?_ ?_ fun report => ?_
  · exact asking_yields lawful fun σ hσ => ⟨_, _, takeScript_answers, hσ⟩
  · exact asking_yields lawful fun σ hσ => ⟨_, _, takeFault_answers, hσ⟩
  · exact onMachine_ensures lawful fun σ hσ => hσ

/-! ## One order -/

omit [Background γ] o in
/-- What an order to the controller of an orphan is answered. -/
def Fruitless (name : String) (order : Scenario.Order) (r : Except ServiceError Unit) : Prop :=
  match order with
  | .install => ∃ e, r = .error e ∧ Barred name e
  | .uninstall | .start | .stop | .restart => r = .error .permissionDenied ∨ r = .error (.notInstalled name)
  | .status | .run => True

/-- **An order to another controller leaves an orphan one.** -/
theorem carryOut_orphan_elsewhere (elsewhere : name ≠ c.name) (order : Scenario.Order) {s : Scene γ}
    (orphan : (cell.get s.world).roll.Orphan name) :
    (cell.get ((carryOut c order).run.finish s).2.world).roll.Orphan name := by
  have kept (r : Request) (now : Nat) (m : Machine) (concerns : r.Concerns c.name) (hm : m.roll.Orphan name) :
      (m.serve now r).roll.Orphan name := hm.spared (serve_spares concerns now m) elsewhere
  refine (o.carryOut_keeps kept (fun pid s hs => ?_) order s orphan).1
  rwa [(o.terminate pid s).roll]

/-- **An order to its own controller has failed**, and leaves it one unless an entry stays behind. -/
theorem carryOut_orphan {order : Scenario.Order} {s after : Scene γ} {r : Except ServiceError Unit}
    (orphan : (cell.get s.world).roll.Orphan c.name) (done : (carryOut c order).run.finish s = (some r, after))
    (whole : order = .install → ∀ reason rollback, r ≠ .error (.rollbackFailed c.name reason rollback)) :
    (cell.get after.world).roll.Orphan c.name ∧ Fruitless c.name order r := by
  have failed {E : ServiceError → Sight Machine → Prop} {x : Op γ Unit} (finish : x.run.finish s = (some r, after))
      (hx : cell.Yields (fun σ => σ.held.roll.Orphan c.name) x (Fails E)) :
      ∃ e, r = .error e ∧ E e ⟨after.now, cell.get after.world⟩ := by
    obtain ⟨r', hr', h⟩ := hx s orphan
    have hplay : Playable.play x.run s = (some r, after) := finish
    rw [hplay] at hr' h
    obtain rfl := Option.some.inj hr'
    cases r with
    | ok _ => exact h.elim
    | error e => exact ⟨e, rfl, h⟩
  have turned {e : ServiceError} {ρ : Roll} (h : Turned c.name e ρ) : ρ.Orphan c.name ∧
      ((.error e : Except ServiceError Unit) = .error .permissionDenied ∨
        (.error e : Except ServiceError Unit) = .error (.notInstalled c.name)) :=
    ⟨h.2, h.1.imp (congrArg _) (congrArg _)⟩
  cases order with
  | install =>
    obtain ⟨e, rfl, ⟨reason, rollback, rfl⟩ | ⟨barred, left⟩⟩ := failed done (Yields.call (install_undone o))
    · exact absurd rfl (whole rfl reason rollback)
    · exact ⟨left, e, rfl, barred⟩
  | uninstall =>
    obtain ⟨e, rfl, h⟩ := failed done (uninstall_turned o)
    exact turned h
  | start =>
    obtain ⟨e, rfl, h⟩ := failed done (Yields.call (start_turned o))
    exact turned h
  | stop =>
    obtain ⟨e, rfl, h⟩ := failed done (stop_turned o)
    exact turned h
  | restart =>
    obtain ⟨e, rfl, h⟩ := failed done (restart_turned o)
    exact turned h
  | status =>
    have told : cell.Yields (fun σ => σ.held.roll.Orphan c.name) (carryOut c .status)
        fun _ σ => σ.held.roll.Orphan c.name :=
      (Yields.act (status_orphan o)).bind_ok fun _ => .pure fun _ hσ => hσ
    obtain ⟨_, -, left⟩ := told s orphan
    have hplay : Playable.play (carryOut c .status).run s = (some r, after) := done
    rw [hplay] at left
    exact ⟨left, trivial⟩
  | run =>
    have left := (run_orphan o s orphan).1
    have hplay : Playable.play c.run.run s = (some r, after) := done
    rw [hplay] at left
    exact ⟨left, trivial⟩

end Controller

/-! ## Any number of them -/

section Orders

variable {γ : Type} [Background γ] {cell : Cell γ Machine}

/-- **Where a machine gets from a scene** by what controllers do with it one after another, by what it is set to, and by
what goes on elsewhere: the deeds, the latest first. -/
inductive Passed (cell : Cell γ Machine) (first : Scene γ) : List Deed → Scene γ → Prop
  | first : Passed cell first [] first
  | order {deeds : List Deed} {s after : Scene γ} {c : Controller γ Unit String} {order : Scenario.Order}
      {r : Except ServiceError Unit} (h : Passed cell first deeds s) (o : Oversees c cell)
      (done : (carryOut c order).run.finish s = (some r, after)) :
      Passed cell first (⟨c.name, order, r, cell.get s.world, cell.get after.world⟩ :: deeds) after
  | set {deeds : List Deed} {s after : Scene γ} (h : Passed cell first deeds s) (setting : Setting)
      (done : cell.get after.world = (cell.get s.world).set setting) : Passed cell first deeds after
  | elsewhere {deeds : List Deed} {s after : Scene γ} (h : Passed cell first deeds s)
      (same : cell.get after.world = cell.get s.world) : Passed cell first deeds after

/-- **An orphaned log source is there for good**, as long as no install of its name leaves an entry behind and says so.
After every operation there still is no entry and the log source is still there, and every install, uninstall, start, stop
and restart of the name has failed. -/
theorem orphans_stay {first s : Scene γ} {deeds : List Deed} (h : Passed cell first deeds s) {name : String}
    (absent : (cell.get first.world).isInstalled name = false)
    (sourced : (cell.get first.world).hasLogSource name = true)
    (whole : ∀ d ∈ deeds, d.name = name → d.order = .install →
      ∀ reason rollback, d.result ≠ .error (.rollbackFailed name reason rollback)) :
    ((cell.get s.world).isInstalled name = false ∧ (cell.get s.world).hasLogSource name = true) ∧
    ∀ d ∈ deeds, d.after.isInstalled name = false ∧ d.after.hasLogSource name = true ∧
      (d.name = name → Fruitless name d.order d.result) := by
  induction h with
  | first => exact ⟨⟨absent, sourced⟩, fun _ hd => absurd hd List.not_mem_nil⟩
  | @order deeds s after c order r _ o done ih =>
    obtain ⟨⟨hi, hs⟩, before⟩ := ih fun d hd => whole d (List.mem_cons_of_mem _ hd)
    have orphan : (cell.get s.world).roll.Orphan name := ⟨hi, hs⟩
    have latest : (cell.get after.world).roll.Orphan name ∧ (c.name = name → Fruitless name order r) := by
      by_cases here : name = c.name
      · subst here
        obtain ⟨left, fruitless⟩ := carryOut_orphan o orphan done (whole _ List.mem_cons_self rfl)
        exact ⟨left, fun _ => fruitless⟩
      · have left := carryOut_orphan_elsewhere o here order orphan
        rw [done] at left
        exact ⟨left, fun same => absurd same.symm here⟩
    obtain ⟨left, fruitless⟩ := latest
    refine ⟨⟨left.absent, left.sourced⟩, fun d hd => ?_⟩
    rcases List.mem_cons.1 hd with rfl | hd
    · exact ⟨left.absent, left.sourced, fruitless⟩
    · exact before d hd
  | @set _ s _ _ setting done ih =>
    obtain ⟨⟨hi, hs⟩, before⟩ := ih whole
    obtain ⟨-, -, roll⟩ := set_keeps (cell.get s.world) setting
    rw [done]
    exact ⟨⟨(congrArg (Roll.installed · name) roll).trans hi, (congrArg (Roll.sourced · name) roll).trans hs⟩, before⟩
  | elsewhere _ same ih =>
    rw [same]
    exact ih whole

open Scenario.Shared (World machineCell) in
/-- The log source that an uninstall has left stays when removals are granted again. -/
theorem orphans_stay_retried :
    let control (name : String) : Controller World Unit String :=
      Scenario.Role.controller { config := { name } } 0 (gateway machineCell) (terminator machineCell) (.ok "/bin/svc")
    let set (setting : Setting) (s : Scene World) : Scene World :=
      { s with world := machineCell.set ((machineCell.get s.world).set setting) s.world }
    let order (name : String) (order : Scenario.Order) (s : Scene World) : Scene World :=
      ((carryOut (control name) order).run.finish s).2
    let installed := order "svcA" .install { world := { manager := {} } }
    let first := order "svcA" .uninstall (set (.failsLogRemoval true) installed)
    let retried := order "svcA" .uninstall (set (.failsLogRemoval false) first)
    let last := order "svcA" .install (order "svcB" .install retried)
    let m := machineCell.get first.world
    m.isInstalled "svcA" = false ∧ m.hasLogSource "svcA" = true ∧
      ∃ deeds, Passed machineCell first deeds last ∧
        deeds.map Deed.result = [.error (.logSourceRegistration "svcA" (logSourceExists "svcA").message), .ok (),
          .error (.notInstalled "svcA")] ∧
        ((machineCell.get last.world).isInstalled "svcA" = false ∧
          (machineCell.get last.world).hasLogSource "svcA" = true) ∧
        ∀ d ∈ deeds, d.name = "svcA" → Fruitless "svcA" d.order d.result := by
  intro control set order installed first retried last m
  have o (name : String) : Oversees (control name) machineCell := role_oversees _ 0 _
  have carries {deeds : List Deed} {s : Scene World} (h : Passed machineCell first deeds s) (name : String)
      (what : Scenario.Order) {r : Except ServiceError Unit}
      (hr : ((carryOut (control name) what).run.finish s).1 = some r) :
      Passed machineCell first
        (⟨name, what, r, machineCell.get s.world, machineCell.get (order name what s).world⟩ :: deeds)
        (order name what s) :=
    h.order (o name) (Prod.ext hr rfl)
  have h₀ : Passed machineCell first [] (set (.failsLogRemoval false) first) :=
    Passed.set .first (.failsLogRemoval false) rfl
  have refused : ((carryOut (control "svcA") .uninstall).run.finish (set (.failsLogRemoval false) first)).1 =
      some (.error (.notInstalled "svcA")) := by decide +kernel
  have other : ((carryOut (control "svcB") .install).run.finish retried).1 = some (.ok ()) := by decide +kernel
  have barred : ((carryOut (control "svcA") .install).run.finish (order "svcB" .install retried)).1 =
      some (.error (.logSourceRegistration "svcA" (logSourceExists "svcA").message)) := by decide +kernel
  have h₁ := carries h₀ "svcA" .uninstall refused
  have h : Passed machineCell first _ last := carries (carries h₁ "svcB" .install other) "svcA" .install barred
  have absent : m.isInstalled "svcA" = false := by decide +kernel
  have sourced : m.hasLogSource "svcA" = true := by decide +kernel
  clear_value last
  obtain ⟨left, tried⟩ := orphans_stay h absent sourced (by simp)
  exact ⟨absent, sourced, _, h, rfl, left, fun d hd => (tried d hd).2.2⟩

end Orders

end ServiceControl.Memory
