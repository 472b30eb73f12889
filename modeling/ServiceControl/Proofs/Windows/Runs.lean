import ServiceControl.Proofs.Memory.Rounds
import ServiceControl.Proofs.Windows.Dispatch
/-!
# Runs under Windows

A run under Windows drives its workload if Windows calls the entry point and takes the control handler.  The result does
not tell whether it did: a run is well if the dispatcher is and, where it drives its workload, both callbacks have
succeeded (`run_ok_iff`), and so is one that never called its workload (`run_ok_undriven`).
-/
namespace ServiceControl.Windows

open Cell (Leads Returns)

variable {γ κ : Type} [Background γ] {cell : Cell γ Machine} {work : γ → κ} {conduct : Conduct κ}

/-! ## Loops that are not driven -/

theorem replied_of_refused {reply : Reply} (refused : ¬reply.Grants) :
    ∃ code, replied reply = .error (.system code) := by
  obtain ⟨code, rfl⟩ := fails_of_refused refused
  exact ⟨code, rfl⟩

theorem speakable_of_terminated {what : Fault} {name checked : String} (h : terminated what name = .ok checked) :
    Speakable name := by
  unfold terminated at h
  unfold Speakable
  split at h
  · rename_i cs hcs
    rw [hcs]
    rfl
  · cases h

namespace Board

/-- What the dispatcher replies, unless it cannot be asked. -/
def verdict (v : Board) (name : String) : Except ServiceError Unit :=
  ((terminated (.nul "service name") name).bind fun _ => (replied (nextReply v.dispatching).1).map fun _ => ()).mapError
    fun f => .dispatch f.message

theorem verdict_ok_iff (v : Board) (name : String) :
    v.verdict name = .ok () ↔ Speakable name ∧ (nextReply v.dispatching).1.Grants := by
  unfold verdict terminated Speakable
  cases Text.terminated? name.toList with
  | none => exact ⟨nofun, fun ⟨spoken, _⟩ => absurd spoken Bool.false_ne_true⟩
  | some cs =>
    by_cases grants : (nextReply v.dispatching).1.Grants
    · rw [replied_of_grants grants]
      exact ⟨fun _ => ⟨rfl, grants⟩, fun _ => rfl⟩
    · obtain ⟨code, hcode⟩ := replied_of_refused grants
      rw [hcode]
      exact ⟨nofun, fun ⟨_, granted⟩ => absurd granted grants⟩

/-- Windows calls the entry point and takes the control handler. -/
structure Drives (v : Board) (name : String) : Prop where
  named : Speakable name
  called : 0 < v.mainCalls.getD v.usualCalls
  registers : (nextReply v.registering).1.Grants

end Board

section Undriven

variable {l : ControlLoop γ} (apart : Separate cell l.errors work) {v : Board} (now : Nat) (box : ErrorBox) (k : κ)
include apart

theorem registerHandler_refused {name : String} (refused : ¬(Speakable name ∧ (nextReply v.registering).1.Grants)) :
    ∃ e registering, (boardPanel cell l.errors work).Returns (registerHandler cell name) ⟨now, ⟨v, box, k⟩⟩ (.error e)
      ⟨now, ⟨{ v with registering }, box, k⟩⟩ := by
  unfold registerHandler explained
  cases hchecked : terminated (.nul "service name") name with
  | error f => exact ⟨_, v.registering, (Returns.result (m := Act γ) (.error f)).bind_error.adapt _⟩
  | ok checked =>
    obtain ⟨code, hcode⟩ := replied_of_refused fun grants => refused ⟨speakable_of_terminated hchecked, grants⟩
    have hinvoke : (boardPanel cell l.errors work).Leads
        (invoke cell .registerHandler (.registerHandler checked)) ⟨now, ⟨v, box, k⟩⟩
        (some (nextReply v.registering).1)
        ⟨now, ⟨{ v with registering := (nextReply v.registering).2 }, box, k⟩⟩ := by
      refine apart.takeFrom_machine fun x hx => ⟨?_, ?_⟩
      · rw [call_reply, ← hx]
        rfl
      · rw [board_call, hx]
        rfl
    have hrequest := request_returns hinvoke
    rw [hcode] at hrequest
    refine ⟨_, (nextReply v.registering).2, Returns.adapt (m := Act γ) (r := .error (.system code)) _ ?_⟩
    exact Returns.bind (Returns.result (m := Act γ) (.ok checked)) hrequest.bind_error

/-- A loop whose handler is refused is taken out of the slot and not run. -/
theorem entryPoint_refused (refused : ¬(Speakable l.name ∧ (nextReply v.registering).1.Grants)) :
    ∃ registering, (boardPanel cell l.errors work).Leads (entryPoint cell fun _ => l)
      ⟨now, ⟨{ v with waits := true }, box, k⟩⟩ (some ()) ⟨now, ⟨{ v with waits := false, registering }, box, k⟩⟩ := by
  obtain ⟨e, registering, hregister⟩ :=
    registerHandler_refused (v := { v with waits := false }) apart now box k refused
  have hrun : (boardPanel cell l.errors work).Returns (runService cell l)
      ⟨now, ⟨{ v with waits := false }, box, k⟩⟩ (.error e) _ := (Returns.call hregister).bind_error
  refine ⟨registering, ?_⟩
  unfold entryPoint
  refine Separate.read_machine fun x hx => ?_
  cases hpending : x.pending with
  | none =>
    have hwaits : x.pending.isSome = true := congrArg Board.waits hx
    rw [hpending] at hwaits
    cases hwaits
  | some number =>
    refine Leads.bind (m := Task γ) (apart.update_machine fun y hy => ?_) (Leads.bind hrun (.log _ _))
    show { y.board with waits := false } = { v with waits := false }
    rw [hy]

theorem callEntryPoint_undriven (n : Nat)
    (undriven : n = 0 ∨ ¬(Speakable l.name ∧ (nextReply v.registering).1.Grants)) :
    ∃ waits registering, (boardPanel cell l.errors work).Leads (callEntryPoint cell (fun _ => l) n)
      ⟨now, ⟨{ v with waits := true }, box, k⟩⟩ (some ()) ⟨now, ⟨{ v with waits, registering }, box, k⟩⟩ := by
  cases n with
  | zero => exact ⟨_, _, .pure _⟩
  | succ n =>
    have refused := undriven.resolve_left (Nat.succ_ne_zero n)
    obtain ⟨registering, hentry⟩ := entryPoint_refused apart now box k refused
    exact ⟨_, _, hentry.bind (callEntryPoint_idle now box k n rfl)⟩

theorem startDispatcher_undriven {name : String} (undriven : ¬(v.Drives name ∧ Speakable l.name)) :
    ∃ waits registering dispatching, (boardPanel cell l.errors work).Returns (startDispatcher cell name fun _ => l)
      ⟨now, ⟨{ v with waits := true }, box, k⟩⟩
      ((terminated (.nul "service name") name).bind fun _ => (replied (nextReply v.dispatching).1).map fun _ => ())
      ⟨now, ⟨{ v with waits, registering, dispatching }, box, k⟩⟩ := by
  cases hchecked : terminated (.nul "service name") name with
  | error f =>
    unfold startDispatcher
    rw [hchecked]
    exact ⟨_, _, _, Returns.bind_error (Returns.result (m := Task γ) (.error f))⟩
  | ok checked =>
    have speakable : Speakable name := speakable_of_terminated hchecked
    obtain ⟨waits, registering, hcalls⟩ := callEntryPoint_undriven
      (v := { v with dispatching := (nextReply v.dispatching).2 }) apart now box k (v.mainCalls.getD v.usualCalls) (by
        by_cases called : v.mainCalls.getD v.usualCalls = 0
        · exact .inl called
        · exact .inr fun ⟨named, registers⟩ => undriven ⟨⟨speakable, Nat.pos_of_ne_zero called, registers⟩, named⟩)
    exact ⟨_, _, _, startDispatcher_calls apart now box k speakable hcalls⟩

/-- **A loop that is not driven leaves the error box and the workload as they are**, and nothing is reported of it.  The
dispatch comes to what the dispatcher replies. -/
theorem dispatch_undriven {name : String} (undriven : ¬(v.Drives name ∧ Speakable l.name)) :
    ∃ registering dispatching, (boardPanel cell l.errors work).Returns (dispatch cell name l) ⟨now, ⟨v, box, k⟩⟩
      (v.verdict name) ⟨now, ⟨{ v with waits := false, registering, dispatching }, box, k⟩⟩ := by
  obtain ⟨waits, registering, dispatching, hstart⟩ := startDispatcher_undriven apart now box k undriven
  exact ⟨registering, dispatching, dispatch_starts apart now box k hstart fun h => absurd h (Option.some_ne_none _)⟩

end Undriven

/-! ## Runs -/

/-- **A controller that runs its service under Windows**, with a workload that behaves like this. -/
structure Works (c : Controller γ Handle Handle) (cell : Cell γ Machine) (work : γ → κ) (conduct : Conduct κ) :
    Prop where
  gateway : c.gateway = gateway cell
  managed : c.interactive = false
  apart : Separate cell c.errors work
  enacts : c.workload.Enacts (boardPanel cell c.errors work) c.view conduct

section Run

variable {c : Controller γ Handle Handle} (works : Works c cell work conduct) {v : Board} (now : Nat) (box : ErrorBox)
  (k : κ)
include works

/-- A failure of the workload goes before what the dispatch comes to. -/
theorem run_of_dispatch {r : Except ServiceError Unit} (failure : Option Failure) {v' : Board} {k' : κ}
    (hdispatch : (boardPanel cell c.errors work).Returns (dispatch cell c.name ⟨c.workload, c.view, c.errors⟩)
      ⟨now, ⟨v, .empty, k⟩⟩ r ⟨now, ⟨v', boxAfter failure .empty, k'⟩⟩) :
    (boardPanel cell c.errors work).Returns c.run ⟨now, ⟨v, box, k⟩⟩ (failure.elim r fun f => .error (.workload f))
      ⟨now, ⟨v', .empty, k'⟩⟩ := by
  have hclear : (boardPanel cell c.errors work).Leads (Act.update c.errors fun _ => ErrorBox.empty : Task γ Unit)
      ⟨now, ⟨v, box, k⟩⟩ (some ()) ⟨now, ⟨v, .empty, k⟩⟩ :=
    works.apart.update_box _
  have htake : (boardPanel cell c.errors work).Leads (Act.takeFrom c.errors ErrorBox.take : Task γ _)
      ⟨now, ⟨v', boxAfter failure .empty, k'⟩⟩ (some (boxAfter failure .empty).content) ⟨now, ⟨v', .empty, k'⟩⟩ :=
    works.apart.takeFrom_box _
  unfold Controller.run Controller.runDispatched
  rw [works.managed, if_neg Bool.false_ne_true, works.gateway]
  refine (Returns.lift hclear).bind ((Returns.attempt hdispatch).bind ((Returns.lift htake).bind ?_))
  cases failure with
  | none => exact Returns.result (m := Task γ) r
  | some failure => exact Returns.throw (m := Task γ) (ServiceError.workload failure)

theorem run_of_waiting {d : Seen Board κ}
    (hdispatch : (boardPanel cell c.errors work).Leads (dispatch cell c.name ⟨c.workload, c.view, c.errors⟩).run
      ⟨now, ⟨v, .empty, k⟩⟩ none ⟨now, d⟩) :
    (boardPanel cell c.errors work).Leads c.run.run ⟨now, ⟨v, box, k⟩⟩ none ⟨now, d⟩ := by
  have hclear : (boardPanel cell c.errors work).Leads (Act.update c.errors fun _ => ErrorBox.empty : Task γ Unit)
      ⟨now, ⟨v, box, k⟩⟩ (some ()) ⟨now, ⟨v, .empty, k⟩⟩ :=
    works.apart.update_box _
  have hattempt := hdispatch.lift (ε := ServiceError)
  unfold Controller.run Controller.runDispatched
  rw [works.managed, if_neg Bool.false_ne_true, works.gateway]
  exact Leads.bind (m := Task γ) (Returns.lift hclear) (Leads.bind_none (m := Task γ) hattempt)

/-- A run whose workload is driven goes the course of its loop, and waits for good if that does. -/
theorem run_driven (drives : v.Drives c.name) :
    let course := conduct.course now k v.signals
    ∃ v' box', (boardPanel cell c.errors work).Leads c.run.run ⟨now, ⟨v, box, k⟩⟩
      (course.exit.map fun _ => course.failure.elim (v.verdict c.name) fun f => .error (.workload f))
      ⟨now, ⟨v', box', course.work⟩⟩ := by
  intro course
  have hdispatch := dispatch_course (l := ⟨c.workload, c.view, c.errors⟩) works.apart works.enacts now .empty k
    drives.named drives.registers drives.named drives.called
  obtain ⟨checked, hchecked⟩ := terminated_of_speakable drives.named (.nul "service name")
  have hverdict : v.verdict c.name =
      ((replied (nextReply v.dispatching).1).map fun _ => ()).mapError fun f => .dispatch f.message := by
    unfold Board.verdict
    rw [hchecked]
    rfl
  rw [hverdict]
  dsimp only at hdispatch
  cases hexit : course.exit with
  | none =>
    rw [show (conduct.course now k v.signals).exit = none from hexit] at hdispatch
    exact ⟨_, _, run_of_waiting works now box k hdispatch⟩
  | some exit =>
    rw [show (conduct.course now k v.signals).exit = some exit from hexit] at hdispatch
    exact ⟨_, _, run_of_dispatch works now box k _ hdispatch⟩

theorem run_undriven (undriven : ¬v.Drives c.name) :
    ∃ v', (boardPanel cell c.errors work).Returns c.run ⟨now, ⟨v, box, k⟩⟩ (v.verdict c.name)
      ⟨now, ⟨v', .empty, k⟩⟩ := by
  obtain ⟨registering, dispatching, hdispatch⟩ := dispatch_undriven (l := ⟨c.workload, c.view, c.errors⟩) works.apart
    now .empty k fun ⟨drives, _⟩ => undriven drives
  exact ⟨_, run_of_dispatch works now box k none hdispatch⟩

end Run

/-! ## What the result tells -/

/-- Callbacks that count how often they are called. -/
structure Counts (conduct : Conduct κ) (starts stops : κ → Nat) : Prop where
  start : ∀ now k, starts (conduct.start now k).work = starts k + 1 ∧ stops (conduct.start now k).work = stops k
  stop : ∀ now k, starts (conduct.stop now k).work = starts k ∧ stops (conduct.stop now k).work = stops k + 1

theorem exitOf_well_iff (started stopped : Option (Except Failure Unit)) :
    (exitOf started stopped).isSome = true ∧ failureOf started stopped = none ↔
      started = some (.ok ()) ∧ stopped = some (.ok ()) := by
  rcases started with _ | _ | _ <;> rcases stopped with _ | _ | _ <;> simp [exitOf, failureOf]

/-- A run comes to its end without a failure exactly if both its callbacks have succeeded. -/
theorem ended_well_iff (conduct : Conduct κ) (now : Nat) (k : κ) (signals : List ControlSignal) :
    let started := conduct.start now k
    let course := conduct.course now k signals
    course.exit.isSome = true ∧ course.failure = none ↔
      started.result = some (.ok ()) ∧ (conduct.stop started.instant started.work).result = some (.ok ()) := by
  intro started course
  refine (exitOf_well_iff started.result (conduct.last now k).result).trans (and_congr_right fun ok => ?_)
  unfold Conduct.last
  rw [show (conduct.start now k).result = some (.ok ()) from ok]

theorem course_work (conduct : Conduct κ) (now : Nat) (k : κ) (signals : List ControlSignal) :
    let started := conduct.start now k
    (started.result = some (.ok ()) →
      (conduct.course now k signals).work = (conduct.stop started.instant started.work).work) ∧
    (started.result ≠ some (.ok ()) → (conduct.course now k signals).work = started.work) := by
  intro started
  show (_ → (conduct.last now k).work = _) ∧ (_ → (conduct.last now k).work = _)
  unfold Conduct.last
  constructor
  · intro ok
    rw [show (conduct.start now k).result = _ from ok]
  · intro failed
    split
    · rename_i h
      exact absurd h failed
    · rfl

/-- **A run is well exactly if the dispatcher is, and, where the workload is driven, both its callbacks have succeeded.**
A driven workload is started once and, if it has started, stopped once; one that is not driven is not called at all. -/
theorem run_ok_iff {c : Controller γ Handle Handle} {starts stops : κ → Nat} (works : Works c cell work conduct)
    (counts : Counts conduct starts stops) (s : Scene γ) :
    let m := cell.get s.world
    let before := work s.world
    let ran := c.run.run.finish s
    let after := work ran.2.world
    let started := conduct.start s.now before
    let stopped := conduct.stop started.instant started.work
    (ran.1 = some (.ok ()) ↔ Speakable c.name ∧ (m.takeReply .startDispatcher).1.Grants ∧
      (m.board.Drives c.name → started.result = some (.ok ()) ∧ stopped.result = some (.ok ()))) ∧
    (m.board.Drives c.name → starts after = starts before + 1 ∧
      (started.result = some (.ok ()) → stops after = stops before + 1) ∧
      (started.result ≠ some (.ok ()) → stops after = stops before)) ∧
    (¬m.board.Drives c.name → starts after = starts before ∧ stops after = stops before) := by
  intro m before ran after started stopped
  have hverdict : m.board.verdict c.name = .ok () ↔
      Speakable c.name ∧ (m.takeReply .startDispatcher).1.Grants := by
    rw [Board.verdict_ok_iff, takeReply_eq]
    rfl
  by_cases drives : m.board.Drives c.name
  · let course := conduct.course s.now before m.board.signals
    obtain ⟨v', box', hrun⟩ := run_driven works s.now (c.errors.get s.world) before drives
    obtain ⟨hresult, hseen⟩ := hrun s rfl
    have hresult : ran.1 = course.exit.map fun _ =>
        course.failure.elim (m.board.verdict c.name) fun f => .error (.workload f) := hresult
    have hafter : after = course.work := congrArg (·.held.work) hseen
    obtain ⟨hstopped, hstarted⟩ := course_work conduct s.now before m.board.signals
    have hwell : course.exit.isSome = true ∧ course.failure = none ↔ _ :=
      ended_well_iff conduct s.now before m.board.signals
    refine ⟨?_, fun _ => ⟨?_, ?_, ?_⟩, fun undriven => absurd drives undriven⟩
    · rw [hresult, ← and_assoc, ← hverdict]
      constructor
      · intro ok
        obtain ⟨exit, hexit, hfailed⟩ := Option.map_eq_some_iff.1 ok
        cases hfailure : course.failure with
        | none =>
          rw [hfailure] at hfailed
          exact ⟨hfailed, fun _ => hwell.1 ⟨Option.isSome_iff_exists.2 ⟨exit, hexit⟩, hfailure⟩⟩
        | some failure =>
          rw [hfailure] at hfailed
          cases hfailed
      · rintro ⟨ok, both⟩
        obtain ⟨ended, well⟩ := hwell.2 (both drives)
        obtain ⟨exit, hexit⟩ := Option.isSome_iff_exists.1 ended
        rw [hexit, well]
        exact congrArg some ok
    · rw [hafter]
      by_cases ok : started.result = some (.ok ())
      · rw [hstopped ok, (counts.stop _ _).1, (counts.start _ _).1]
      · rw [hstarted ok, (counts.start _ _).1]
    · intro ok
      rw [hafter, hstopped ok, (counts.stop _ _).2, (counts.start _ _).2]
    · intro failed
      rw [hafter, hstarted failed, (counts.start _ _).2]
  · obtain ⟨v', hrun⟩ := run_undriven works s.now (c.errors.get s.world) before drives
    obtain ⟨hresult, hseen⟩ := hrun s rfl
    have hresult : ran.1 = some (m.board.verdict c.name) := hresult
    have hafter : after = before := congrArg (·.held.work) hseen
    refine ⟨?_, fun h => absurd h drives, fun _ => ?_⟩
    · rw [hresult, Option.some_inj, hverdict]
      exact ⟨fun ⟨named, grants⟩ => ⟨named, grants, fun h => absurd h drives⟩, fun ⟨named, grants, _⟩ => ⟨named, grants⟩⟩
    · rw [hafter]
      exact ⟨rfl, rfl⟩

/-! ## Runs of a scripted workload -/

section Scripted

open Scenario (Stage)
open Workload (Scripted)

theorem scripts_count : Counts Scripted.conduct (·.starts) (·.stops) where
  start _ _ := ⟨rfl, rfl⟩
  stop _ _ := ⟨rfl, rfl⟩

/-- Windows asks for the state and then for the end, and the dispatcher calls the entry point twice. -/
theorem run_ok_iff_asked :
    let c := Solo.controller { name := "svcA" } (gateway Solo.machineCell)
    let m : Machine := { controls := [Code.interrogateControl, Code.shutdownControl], mainCalls := some 2 }
    let s : Scene (Stage (Solo Machine)) := { world := { manager := { machine := m, job := { observes := true } } } }
    Works c Solo.machineCell Solo.work Scripted.conduct ∧ Counts Scripted.conduct (·.starts) (·.stops) ∧
      m.board.Drives c.name ∧ ∃ after, c.run.run.finish s = (some (.ok ()), after) ∧
        (Solo.work after.world).starts = 1 ∧ (Solo.work after.world).stops = 1 := by
  intro c m s
  have works : Works c Solo.machineCell Solo.work Scripted.conduct :=
    ⟨rfl, rfl, Solo.separate, Solo.enacts fun _ => status_quiet Solo.separate _⟩
  have named : Speakable c.name := by
    unfold Speakable
    decide
  have drives : m.board.Drives c.name := ⟨named, by decide, fun _ => nofun⟩
  obtain ⟨well, driven, -⟩ := run_ok_iff works scripts_count s
  obtain ⟨starts, stops, -⟩ := driven drives
  have ok : (c.run.run.finish s).1 = some (.ok ()) := well.2 ⟨named, fun _ => nofun, fun _ => ⟨rfl, rfl⟩⟩
  exact ⟨works, scripts_count, drives, _, Prod.ext ok rfl, starts, stops rfl⟩

/-- **A run that never called its workload may be well**: where Windows does not take the control handler, and where the
dispatcher does not call the entry point. -/
theorem run_ok_undriven :
    let c := Solo.controller { name := "svcA" } (gateway Solo.machineCell)
    let ran (m : Machine) := c.run.run.finish { world := { manager := { machine := m } } }
    let unregistered : Machine := { replies := fun f => if f = .registerHandler then [.fails 5] else [] }
    let uncalled : Machine := { mainCalls := some 0 }
    ((ran unregistered).1 = some (.ok ()) ∧ (Solo.work (ran unregistered).2.world).starts = 0 ∧
      (Solo.work (ran unregistered).2.world).stops = 0) ∧
    (ran uncalled).1 = some (.ok ()) ∧ (Solo.work (ran uncalled).2.world).starts = 0 ∧
      (Solo.work (ran uncalled).2.world).stops = 0 := by
  decide +kernel

end Scripted

end ServiceControl.Windows
