import ServiceControl.Proofs.Memory.Asks
import ServiceControl.Proofs.Scripted.Conduct
import ServiceControl.Controller
import ServiceControl.Memory.Gateway
import Mathlib.Data.List.Forall2
/-!
# Runs one after another

A controller runs its service over and over under a machine.  Each run comes to what its own signals, its own fault and its
own callbacks make of it, and leaves nothing for the next (`rounds_apart`).
-/
namespace ServiceControl.Memory

open Cell (Leads Returns)

/-- What of a machine has to do with runs; the latest report first. -/
structure Docket where
  script : List ControlSignal
  fault : Option String
  reports : List StatusReport

def Machine.docket (m : Machine) : Docket := ⟨m.script, m.dispatchFault, m.reports⟩

def Docket.keep (report : StatusReport) (v : Docket) : Docket := { v with reports := report :: v.reports }

theorem foldl_keep (reports : List StatusReport) (v : Docket) :
    reports.foldl (fun v r => v.keep r) v = { v with reports := reports.reverse ++ v.reports } := by
  induction reports generalizing v with
  | nil => rfl
  | cons report reports ih =>
    rw [List.foldl_cons, ih, List.reverse_cons, List.append_assoc]
    rfl

/-- **What a run comes to**: the failure of its workload goes before the fault of its dispatch. -/
def verdict (failure : Option Failure) (fault : Option String) : Except ServiceError Unit :=
  match failure, fault with
  | some failure, _ => .error (.workload failure)
  | none, some reason => .error (.dispatch reason)
  | none, none => .ok ()

variable {γ κ : Type} [Background γ] {cell : Cell γ Machine} {errors : Cell γ ErrorBox} {work : γ → κ}
  {conduct : Conduct κ}

/-- A machine with an error box and a workload, seen for a run. -/
abbrev docketPanel (cell : Cell γ Machine) (errors : Cell γ ErrorBox) (work : γ → κ) : Cell γ (Seen Docket κ) :=
  panel Machine.docket cell errors work

/-! ## One dispatch -/

section Dispatch

variable (apart : Separate cell errors work)
include apart

theorem keepReport_tells :
    ControlLoop.Tells (docketPanel cell errors work) (fun report => onMachine cell (keepReport report))
      Docket.keep := by
  rintro report now ⟨v, box, k⟩
  refine apart.takeFrom_machine fun x hx => ⟨rfl, ?_⟩
  rw [← hx]
  rfl

theorem takeScript_returns {script : List ControlSignal} {fault : Option String} {reports : List StatusReport}
    {box : ErrorBox} {k : κ} {now : Nat} :
    (docketPanel cell errors work).Returns (asking cell takeScript) ⟨now, ⟨script, fault, reports⟩, box, k⟩
      (.ok script) ⟨now, ⟨[], fault, reports⟩, box, k⟩ := by
  refine apart.takeFrom_machine fun x hx => ?_
  have ha : takeScript.run.run x = _ := takeScript_answers
  obtain ⟨rfl, rfl, rfl⟩ := Docket.mk.inj hx
  rw [ha]
  exact ⟨rfl, rfl⟩

theorem takeFault_returns {script : List ControlSignal} {fault : Option String} {reports : List StatusReport}
    {box : ErrorBox} {k : κ} {now : Nat} :
    (docketPanel cell errors work).Returns (asking cell takeFault) ⟨now, ⟨script, fault, reports⟩, box, k⟩
      (verdict none fault) ⟨now, ⟨script, none, reports⟩, box, k⟩ := by
  refine apart.takeFrom_machine fun x hx => ?_
  have ha : takeFault.run.run x = _ := takeFault_answers
  obtain ⟨rfl, rfl, rfl⟩ := Docket.mk.inj hx
  rw [ha]
  refine ⟨?_, rfl⟩
  cases x.dispatchFault <;> rfl

omit apart in
/-- **A dispatch takes the script and keeps the reports.**  If the run ends, it takes the fault as well. -/
theorem dispatch_course {l : ControlLoop γ} (apart : Separate cell l.errors work)
    (enacts : l.workload.Enacts (docketPanel cell l.errors work) l.view conduct) (name : String) (now : Nat)
    (script : List ControlSignal) (fault : Option String) (reports : List StatusReport) (box : ErrorBox) (k : κ) :
    let course := conduct.course now k script
    (docketPanel cell l.errors work).Leads (dispatch cell name l).run ⟨now, ⟨script, fault, reports⟩, box, k⟩
      (course.exit.map fun _ => verdict none fault)
      ⟨course.instant, ⟨[], if course.exit.isSome then none else fault, course.reports.reverse ++ reports⟩,
        boxAfter course.failure box, course.work⟩ := by
  intro course
  have hloop : (docketPanel cell l.errors work).Leads
      (l.run (fun report => onMachine cell (keepReport report)) (Inbox.ready now script))
      ⟨now, ⟨[], fault, reports⟩, box, k⟩ course.exit
      ⟨course.instant, course.reports.foldl (fun v r => v.keep r) ⟨[], fault, reports⟩, boxAfter course.failure box,
        course.work⟩ :=
    ControlLoop.run_course enacts (Separate.fails apart) (keepReport_tells apart) apart.still script now _
  rw [foldl_keep] at hloop
  unfold dispatch
  refine Leads.bind (m := Task γ) (Returns.call (takeScript_returns apart)) ?_
  refine Leads.bind (m := Task γ) (Returns.log _ _) (Leads.bind (m := Task γ) Returns.now ?_)
  cases hexit : course.exit with
  | none =>
    rw [hexit] at hloop
    exact Leads.bind_none (m := Task γ) (Leads.lift hloop)
  | some exit =>
    rw [hexit] at hloop
    exact (Returns.lift hloop).bind (Returns.call (takeFault_returns apart))

end Dispatch

/-! ## One run -/

/-- **A controller that runs its service under the machine**, with a workload that behaves like this. -/
structure Works (c : Controller γ Unit String) (cell : Cell γ Machine) (work : γ → κ) (conduct : Conduct κ) : Prop where
  gateway : c.gateway = gateway cell
  managed : c.interactive = false
  apart : Separate cell c.errors work
  enacts : c.workload.Enacts (docketPanel cell c.errors work) c.view conduct

/-- The callbacks come to an end. -/
def Ends (conduct : Conduct κ) : Prop :=
  ∀ now k, (conduct.start now k).result.isSome = true ∧ (conduct.stop now k).result.isSome = true

theorem exit_of_ends (ends : Ends conduct) (now : Nat) (k : κ) (signals : List ControlSignal) :
    ∃ exit, (conduct.course now k signals).exit = some exit := by
  have started := (ends now k).1
  unfold Conduct.course Conduct.last
  cases hstart : (conduct.start now k).result with
  | none =>
    rw [hstart] at started
    cases started
  | some result =>
    cases result with
    | error failure => exact ⟨.startFailed, rfl⟩
    | ok _ =>
      have stopped := (ends (conduct.start now k).instant (conduct.start now k).work).2
      obtain ⟨result, hstop⟩ := Option.isSome_iff_exists.1 stopped
      dsimp only
      rw [hstop]
      cases result with
      | ok _ => exact ⟨.normal, rfl⟩
      | error failure => exact ⟨.stopFailed, rfl⟩

section Run

variable {c : Controller γ Unit String} (works : Works c cell work conduct) (ends : Ends conduct)
include works ends

/-- **A run empties the error box, the script and the pending fault**, and is told by its own workload and fault. -/
theorem run_course (now : Nat) (d : Seen Docket κ) :
    let course := conduct.course now d.work d.shown.script
    (docketPanel cell c.errors work).Returns c.run ⟨now, d⟩ (verdict course.failure d.shown.fault)
      ⟨course.instant, ⟨[], none, course.reports.reverse ++ d.shown.reports⟩, .empty, course.work⟩ := by
  intro course
  obtain ⟨⟨script, fault, reports⟩, box, k⟩ := d
  obtain ⟨exit, hexit⟩ : ∃ exit, course.exit = some exit := exit_of_ends ends now k script
  let ended (box : ErrorBox) : Sight (Seen Docket κ) :=
    ⟨course.instant, ⟨[], none, course.reports.reverse ++ reports⟩, box, course.work⟩
  have hclear : (docketPanel cell c.errors work).Leads (Act.update c.errors fun _ => ErrorBox.empty : Task γ Unit)
      ⟨now, ⟨script, fault, reports⟩, box, k⟩ (some ()) ⟨now, ⟨script, fault, reports⟩, .empty, k⟩ :=
    works.apart.update_box _
  have hdispatch : (docketPanel cell c.errors work).Returns
      (dispatch cell c.name ⟨c.workload, c.view, c.errors⟩) ⟨now, ⟨script, fault, reports⟩, .empty, k⟩
      (verdict none fault) (ended (boxAfter course.failure .empty)) := by
    have h := dispatch_course (l := ⟨c.workload, c.view, c.errors⟩) works.apart works.enacts c.name now script fault
      reports .empty k
    dsimp only at h
    rw [show (conduct.course now k script).exit = some exit from hexit] at h
    exact h
  have htake : (docketPanel cell c.errors work).Leads (Act.takeFrom c.errors ErrorBox.take : Task γ _)
      (ended (boxAfter course.failure .empty)) (some (boxAfter course.failure .empty).content) (ended .empty) :=
    works.apart.takeFrom_box _
  unfold Controller.run Controller.runDispatched
  rw [works.managed, if_neg Bool.false_ne_true, works.gateway]
  refine (Returns.lift hclear).bind ((Returns.attempt hdispatch).bind ((Returns.lift htake).bind ?_))
  -- the box was emptied before, so that what is taken out of it is of this run
  cases course.failure with
  | none => exact Returns.result (m := Task γ) (verdict none fault)
  | some failure => exact Returns.throw (m := Task γ) (ServiceError.workload failure)

end Run

/-! ## Rounds -/

/-- A run with what is done before it: signals are put on the script or not, a dispatch is told to fail or not, an error is
left in the box or not, and the workload is brought into some state. -/
structure Round (γ κ : Type) where
  prepare : Task γ Unit
  script : Option (List ControlSignal)
  fault : Option String
  left : Option ServiceError
  work : κ

/-- What is seen after the preparation. -/
def Round.laid (r : Round γ κ) (d : Seen Docket κ) : Seen Docket κ :=
  ⟨⟨r.script.getD d.shown.script, r.fault.or d.shown.fault, d.shown.reports⟩, r.left.elim d.box d.box.put, r.work⟩

def Round.Prepares (r : Round γ κ) (place : Cell γ (Seen Docket κ)) : Prop :=
  ∀ now d, ∃ later, place.Leads r.prepare ⟨now, d⟩ (some ()) ⟨later, r.laid d⟩

/-- A run with what was seen right before and after it. -/
structure Watched (κ : Type) where
  before : Sight (Seen Docket κ)
  result : Except ServiceError Unit
  after : Sight (Seen Docket κ)

def watch (place : Cell γ (Seen Docket κ)) : Act γ (Sight (Seen Docket κ)) := do return place.sight (← get)

def takeRounds (c : Controller γ Unit String) (place : Cell γ (Seen Docket κ)) :
    List (Round γ κ) → Task γ (List (Watched κ))
  | [] => return []
  | r :: rounds => do
    r.prepare
    let before ← watch place
    let result ← c.run.run
    let after ← watch place
    return ⟨before, result, after⟩ :: (← takeRounds c place rounds)

/-- **A run that comes to what is its own**: its signals, its fault, and how its callbacks end.  Nothing is left of it but
its reports and the state of its workload. -/
structure Own (conduct : Conduct κ) (r : Round γ κ) (w : Watched κ) : Prop where
  result : w.result = verdict (failureOf (conduct.start w.before.now r.work).result
    (conduct.last w.before.now r.work).result) r.fault
  reports : w.after.held.shown.reports = (reportsOf (r.script.getD []) (conduct.start w.before.now r.work).result
    (conduct.last w.before.now r.work).result).reverse ++ w.before.held.shown.reports
  work : w.after.held.work = (conduct.last w.before.now r.work).work
  instant : w.after.now = (conduct.last w.before.now r.work).instant
  box : w.after.held.box = .empty
  script : w.after.held.shown.script = []
  fault : w.after.held.shown.fault = none

omit [Background γ] in
theorem watch_leads (place : Cell γ (Seen Docket κ)) (σ : Sight (Seen Docket κ)) :
    place.Leads (watch place) σ (some σ) σ := by
  refine .get ?_
  rintro s rfl
  exact .pure _

section Rounds

variable {c : Controller γ Unit String} (works : Works c cell work conduct) (ends : Ends conduct)
include works ends

/-- One round, from where nothing is on the script and no fault is pending, leads to such a place again. -/
theorem round_own {r : Round γ κ} (prepares : r.Prepares (docketPanel cell c.errors work)) (now : Nat)
    {d : Seen Docket κ} (script : d.shown.script = []) (fault : d.shown.fault = none) :
    ∃ w, Own conduct r w ∧ ∀ {rounds : List (Round γ κ)} {ws : List (Watched κ)} {σ : Sight (Seen Docket κ)},
      (docketPanel cell c.errors work).Leads (takeRounds c (docketPanel cell c.errors work) rounds) w.after (some ws) σ →
      (docketPanel cell c.errors work).Leads (takeRounds c (docketPanel cell c.errors work) (r :: rounds)) ⟨now, d⟩
        (some (w :: ws)) σ := by
  let seen : Seen Docket κ := ⟨⟨r.script.getD [], r.fault, d.shown.reports⟩, r.left.elim d.box d.box.put, r.work⟩
  obtain ⟨begun, hprepare⟩ := prepares now d
  have laid : r.laid d = seen := by
    unfold Round.laid
    rw [script, fault, Option.or_none]
  rw [laid] at hprepare
  have hrun := run_course works ends begun seen
  let course := conduct.course begun r.work (r.script.getD [])
  refine ⟨⟨⟨begun, seen⟩, verdict course.failure r.fault,
    ⟨course.instant, ⟨[], none, course.reports.reverse ++ d.shown.reports⟩, .empty, course.work⟩⟩,
    ⟨rfl, rfl, rfl, rfl, rfl, rfl, rfl⟩, ?_⟩
  intro rounds ws σ hrest
  unfold takeRounds
  refine hprepare.bind (Leads.bind (.act (watch_leads _ _)) ?_)
  exact Leads.bind hrun (Leads.bind (.act (watch_leads _ _)) (hrest.bind (.pure _)))

theorem rounds_own (rounds : List (Round γ κ))
    (prepared : ∀ r ∈ rounds, r.Prepares (docketPanel cell c.errors work)) (now : Nat) {d : Seen Docket κ}
    (script : d.shown.script = []) (fault : d.shown.fault = none) :
    ∃ ws σ, List.Forall₂ (Own conduct) rounds ws ∧ (docketPanel cell c.errors work).Leads
      (takeRounds c (docketPanel cell c.errors work) rounds) ⟨now, d⟩ (some ws) σ := by
  -- what a round leaves, an empty script and no fault, is what the next one begins with
  induction rounds generalizing now d with
  | nil => exact ⟨[], _, .nil, .pure _⟩
  | cons r rounds ih =>
    obtain ⟨w, own, hround⟩ := round_own works ends (prepared r List.mem_cons_self) now script fault
    obtain ⟨ws, σ, owns, hrest⟩ :=
      ih (fun r hr => prepared r (List.mem_cons_of_mem _ hr)) w.after.now own.script own.fault
    exact ⟨w :: ws, σ, .cons own owns, hround hrest⟩

/-- **A run is told by its own signals, its own fault and its own callbacks**, whatever came before it, and leaves the
error box and the script empty and no fault pending. -/
theorem rounds_apart (rounds : List (Round γ κ))
    (prepared : ∀ r ∈ rounds, r.Prepares (docketPanel cell c.errors work)) (s : Scene γ)
    (script : (cell.get s.world).script = []) (fault : (cell.get s.world).dispatchFault = none) :
    ∃ ws after, (takeRounds c (docketPanel cell c.errors work) rounds).finish s = (some ws, after) ∧
      List.Forall₂ (Own conduct) rounds ws := by
  let seen : Seen Docket κ := (docketPanel cell c.errors work).get s.world
  obtain ⟨ws, σ, owns, hleads⟩ := rounds_own works ends rounds prepared s.now (d := seen) script fault
  obtain ⟨hresult, -⟩ := hleads s rfl
  exact ⟨ws, _, Prod.ext hresult rfl, owns⟩

end Rounds

/-! ## Rounds of a scripted workload -/

section Scripted

open Scenario (Stage)
open Workload (Scripted)

variable {P : Sight (Seen Docket κ) → Prop}

/-- Asking for the state of a service has nothing to do with runs. -/
theorem status_quiet (apart : Separate cell errors work) (config : ServiceConfig) :
    (docketPanel cell errors work).Ensures P ((gateway cell).status config) fun _ => P := by
  have hask {α : Type} {ask : Ask α} (h : ∀ m, ∃ r m', Answers ask m r m' ∧ m'.docket = m.docket) :
      (docketPanel cell errors work).Yields P (asking cell ask) fun _ => P := by
    refine apart.takeFrom_unseen fun m => ?_
    obtain ⟨r, m', ha, hm⟩ := h m
    rwa [show ask.run.run m = (r, m') from ha]
  have hconnect (m : Machine) : ∃ r m', Answers connect m r m' ∧ m'.docket = m.docket := by
    cases h : m.deniesAccess with
    | true => exact ⟨_, _, connect_denied h, rfl⟩
    | false => exact ⟨_, _, connect_granted h, rfl⟩
  have hopen (name : String) (m : Machine) : ∃ r m', Answers (openEntry name) m r m' ∧ m'.docket = m.docket := by
    cases h : m.services.find? name with
    | none => exact ⟨_, _, openEntry_absent h, rfl⟩
    | some s => exact ⟨_, _, openEntry_found h, rfl⟩
  have hquery (now : Nat) (name : String) (m : Machine) :
      ∃ r m', Answers (query now name) m r m' ∧ m'.docket = m.docket := by
    cases h : m.services.find? name with
    | none => exact ⟨_, _, query_absent h, rfl⟩
    | some s => exact ⟨_, _, query_found h, rfl⟩
  refine Gateway.status_quiet (hask hconnect) (fun _ name => hask (hopen name)) (fun name => ?_) ?_ ?_
  · exact Cell.Yields.now_any.bind_ok fun now => hask (hquery now name)
  · exact fun _ => apart.takeFrom_unseen fun _ => rfl
  · exact fun _ => apart.takeFrom_unseen fun _ => rfl

theorem solo_works (config : ServiceConfig) :
    Works (Solo.controller config (gateway Solo.machineCell)) Solo.machineCell Solo.work Scripted.conduct where
  gateway := rfl
  managed := rfl
  apart := Solo.separate
  enacts := Solo.enacts fun _ => status_quiet Solo.separate config

theorem scripts_end : Ends Scripted.conduct := fun _ _ => ⟨rfl, rfl⟩

/-- A round of a scripted workload. -/
def soloRound (script : Option (List ControlSignal)) (fault : Option String) (left : Option ServiceError)
    (job : Scripted) : Round (Stage (Solo Machine)) Scripted where
  prepare := do
    Act.update Solo.machineCell fun m =>
      { m with script := script.getD m.script, dispatchFault := fault.or m.dispatchFault }
    Act.update Solo.errorsCell fun box => left.elim box box.put
    Act.write Solo.jobCell job
  script
  fault
  left
  work := job.blind

theorem soloRound_prepares (script : Option (List ControlSignal)) (fault : Option String) (left : Option ServiceError)
    (job : Scripted) :
    (soloRound script fault left job).Prepares (docketPanel Solo.machineCell Solo.errorsCell Solo.work) := by
  intro now d
  refine ⟨now, ?_⟩
  intro s hs
  obtain ⟨rfl, rfl⟩ := Sight.mk.inj hs
  exact ⟨rfl, rfl⟩

/-- Signals that are left over after a failed start, a fault behind the failure of a workload, and an error that was in
the box before. -/
theorem rounds_apart_leftover :
    let c := Solo.controller { name := "svcA" } (gateway Solo.machineCell)
    let place := docketPanel Solo.machineCell Solo.errorsCell Solo.work
    let broken : Failure := ⟨"broken", []⟩
    let rounds := [
      soloRound (some [.interrogate, .stop]) (some "lost") none { onStart := [{ failure := some broken }] },
      soloRound none none (some .permissionDenied) {},
      soloRound (some [.stop, .interrogate]) (some "lost") none { observes := true }]
    let scene : Scene (Stage (Solo Machine)) := { world := { manager := { machine := {} } } }
    Works c Solo.machineCell Solo.work Scripted.conduct ∧ Ends Scripted.conduct ∧ (∀ r ∈ rounds, r.Prepares place) ∧
      ∃ ws after, (takeRounds c place rounds).finish scene = (some ws, after) ∧
        List.Forall₂ (Own Scripted.conduct) rounds ws ∧
        ws.map Watched.result = [.error (.workload broken), .ok (), .error (.dispatch "lost")] := by
  intro c place broken rounds scene
  have works : Works c Solo.machineCell Solo.work Scripted.conduct := solo_works _
  have prepared : ∀ r ∈ rounds, r.Prepares place := by
    simp only [rounds, List.forall_mem_cons, List.not_mem_nil, false_implies, implies_true, and_true]
    exact ⟨soloRound_prepares _ _ _ _, soloRound_prepares _ _ _ _, soloRound_prepares _ _ _ _⟩
  obtain ⟨ws, after, hws, owns⟩ := rounds_apart works scripts_end rounds prepared scene rfl rfl
  have told : ((takeRounds c place rounds).finish scene).1.map (·.map Watched.result)
      = some [.error (.workload broken), .ok (), .error (.dispatch "lost")] := by
    decide +kernel
  rw [show (takeRounds c place rounds).finish scene = (some ws, after) from hws] at told
  exact ⟨works, scripts_end, prepared, ws, after, hws, owns, Option.some.inj told⟩

end Scripted

end ServiceControl.Memory
