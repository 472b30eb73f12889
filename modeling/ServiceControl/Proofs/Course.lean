import ServiceControl.ControlLoop
import ServiceControl.Proofs.Promises
import ServiceControl.Workload.Scripted
/-!
# The course of a run

A control loop in whose inbox everything has arrived runs its course: what it reports, how it ends and what it leaves in
the error box are fixed by the signals and by what its workload does, whatever it reports to (`run_course`).
-/
namespace ServiceControl

/-! ## Workloads as they behave -/

/-- What a callback comes to: without a result it never ends. -/
structure Ending (κ : Type) where
  result : Option (Except Failure Unit)
  instant : Nat
  work : κ

/-- What a workload does, by the time and by the state that it is in. -/
structure Conduct (κ : Type) where
  start : Nat → κ → Ending κ
  stop : Nat → κ → Ending κ
  onward : ∀ now k, now ≤ (start now k).instant

/-! ## Courses -/

/-- How often a run is asked for its state before it is asked to end. -/
def interrogations (signals : List ControlSignal) : Nat :=
  (signals.takeWhile fun s => s ≠ .stop && s ≠ .shutdown).count .interrogate

theorem interrogations_interrogate (signals : List ControlSignal) :
    interrogations (.interrogate :: signals) = interrogations signals + 1 :=
  List.count_cons_self

theorem interrogations_ignored {signal : ControlSignal} (goesOn : signal ≠ .stop ∧ signal ≠ .shutdown)
    (other : signal ≠ .interrogate) (signals : List ControlSignal) :
    interrogations (signal :: signals) = interrogations signals := by
  unfold interrogations
  rw [List.takeWhile_cons_of_pos (by simp [goesOn]), List.count_cons_of_ne other]

/-- **The reports of a run**, in order. -/
def reportsOf (signals : List ControlSignal) (started stopped : Option (Except Failure Unit)) : List StatusReport :=
  match started with
  | none => [.pending .startPending]
  | some (.error _) => [.pending .startPending, .stopped (.service 1)]
  | some (.ok _) =>
    [.pending .startPending, .running] ++ List.replicate (interrogations signals) .running ++ [.pending .stopPending] ++
      match stopped with
      | none => []
      | some (.error _) => [.stopped (.service 2)]
      | some (.ok _) => [.stopped (.win32 0)]

/-- **The failure of a run**: that of its start, or that of its stop after a start. -/
def failureOf (started stopped : Option (Except Failure Unit)) : Option Failure :=
  match started, stopped with
  | some (.error failure), _ => some failure
  | some (.ok _), some (.error failure) => some failure
  | _, _ => none

def exitOf (started stopped : Option (Except Failure Unit)) : Option LoopExit :=
  match started, stopped with
  | some (.error _), _ => some .startFailed
  | some (.ok _), some (.error _) => some .stopFailed
  | some (.ok _), some (.ok _) => some .normal
  | _, _ => none

/-- What a run comes to.  Its workload is stopped only if it has started. -/
structure Course (κ : Type) where
  reports : List StatusReport
  failure : Option Failure
  exit : Option LoopExit
  instant : Nat
  work : κ

/-- The last callback of a run. -/
def Conduct.last {κ : Type} (c : Conduct κ) (now : Nat) (k : κ) : Ending κ :=
  match (c.start now k).result with
  | some (.ok _) => c.stop (c.start now k).instant (c.start now k).work
  | _ => c.start now k

def Conduct.course {κ : Type} (c : Conduct κ) (now : Nat) (k : κ) (signals : List ControlSignal) : Course κ :=
  let started := (c.start now k).result
  let stopped := (c.last now k).result
  ⟨reportsOf signals started stopped, failureOf started stopped, exitOf started stopped, (c.last now k).instant,
    (c.last now k).work⟩

/-! ## What is seen of a run -/

/-- A failure is kept in the error box. -/
def boxAfter (failure : Option Failure) (box : ErrorBox) : ErrorBox :=
  match failure with
  | none => box
  | some failure => box.put (.workload failure)

/-- What reports change, what lies in the error box, and the state of the workload. -/
structure Seen (ν κ : Type) where
  shown : ν
  box : ErrorBox
  work : κ

namespace Seen

variable {ν κ : Type}

/-- Reports are told one after another. -/
def told (tell : StatusReport → ν → ν) (reports : List StatusReport) (d : Seen ν κ) : Seen ν κ :=
  { d with shown := reports.foldl (fun v r => tell r v) d.shown }

def failed (failure : Option Failure) (d : Seen ν κ) : Seen ν κ := { d with box := boxAfter failure d.box }

def working (work : κ) (d : Seen ν κ) : Seen ν κ := { d with work }

theorem told_append (tell : StatusReport → ν → ν) (rs rs' : List StatusReport) (d : Seen ν κ) :
    d.told tell (rs ++ rs') = (d.told tell rs).told tell rs' := by
  unfold told
  rw [List.foldl_append]

end Seen

/-- **The workload behaves like this**, and touches nothing else that is seen. -/
structure Workload.Enacts {γ ν κ : Type} [Background γ] (w : Workload γ) (place : Cell γ (Seen ν κ)) (view : View γ)
    (c : Conduct κ) : Prop where
  start : ∀ now d, place.Leads (w.start view).run ⟨now, d⟩ (c.start now d.work).result
    ⟨(c.start now d.work).instant, d.working (c.start now d.work).work⟩
  stop : ∀ now d, place.Leads (w.stop view).run ⟨now, d⟩ (c.stop now d.work).result
    ⟨(c.stop now d.work).instant, d.working (c.stop now d.work).work⟩

namespace ControlLoop

open Cell (Leads)

variable {γ ν κ : Type} [Background γ] {place : Cell γ (Seen ν κ)} {l : ControlLoop γ} {c : Conduct κ}
  {report : StatusReport → Act γ Unit} {tell : StatusReport → ν → ν}

/-- A failure goes into the error box that is seen. -/
def Fails (place : Cell γ (Seen ν κ)) (l : ControlLoop γ) : Prop :=
  ∀ failure now d, place.Leads (l.fail failure) ⟨now, d⟩ (some ()) ⟨now, d.failed (some failure)⟩

/-- What a report changes of what is shown, and nothing else that is seen. -/
def Tells (place : Cell γ (Seen ν κ)) (report : StatusReport → Act γ Unit) (tell : StatusReport → ν → ν) : Prop :=
  ∀ r now d, place.Leads (report r) ⟨now, d⟩ (some ()) ⟨now, d.told tell [r]⟩

variable (enacts : l.workload.Enacts place l.view c) (fails : Fails place l) (tells : Tells place report tell)
include enacts fails tells

theorem stopWorkload_course (signal : ControlSignal) (now : Nat) (d : Seen ν κ) :
    let ending := c.stop now d.work
    place.Leads (l.stopWorkload report signal) ⟨now, d⟩ (exitOf (some (.ok ())) ending.result)
      ⟨ending.instant, ((d.told tell [.pending .stopPending]).failed (failureOf (some (.ok ())) ending.result)).working
        ending.work⟩ := by
  intro ending
  have hstop := enacts.stop now (d.told tell [.pending .stopPending])
  unfold stopWorkload
  refine (Leads.log _ _).bind ((Leads.act (tells _ now d)).bind ?_)
  cases hresult : ending.result with
  | none =>
    rw [show (c.stop now (d.told tell [.pending .stopPending]).work).result = none from hresult] at hstop
    exact hstop.bind_none
  | some result =>
    rw [show (c.stop now (d.told tell [.pending .stopPending]).work).result = some result from hresult] at hstop
    refine hstop.bind ?_
    cases result with
    | ok _ => exact .pure _
    | error failure => exact (Leads.log _ _).bind ((Leads.act (fails failure _ _)).bind (.pure _))

variable (still : place.Still)
include still

theorem serve_course (signals : List ControlSignal) {now t : Nat} (arrived : now ≤ t) (d : Seen ν κ) :
    let ending := c.stop t d.work
    place.Leads (l.serve report (some now) (signals.map (now, ·))) ⟨t, d⟩ (exitOf (some (.ok ())) ending.result)
      ⟨ending.instant, ((d.told tell (List.replicate (interrogations signals) .running ++ [.pending .stopPending])).failed
        (failureOf (some (.ok ())) ending.result)).working ending.work⟩ := by
  -- all signals have arrived, so that none is waited for
  have hwake (d : Seen ν κ) : place.Leads (Task.sleepUntil now : Task γ Unit) ⟨t, d⟩ (some ()) ⟨t, d⟩ :=
    Leads.wakeAt still (Nat.max_eq_left arrived)
  induction signals generalizing d with
  | nil =>
    exact (hwake d).bind ((Leads.log _ _).bind (stopWorkload_course enacts fails tells .shutdown t d))
  | cons signal signals ih =>
    rw [List.map_cons]
    unfold serve
    refine (hwake d).bind ?_
    cases signal with
    | stop => exact stopWorkload_course enacts fails tells .stop t d
    | shutdown => exact stopWorkload_course enacts fails tells .shutdown t d
    | interrogate =>
      rw [interrogations_interrogate, List.replicate_succ]
      exact (Leads.act (tells .running t d)).bind (ih (d.told tell [.running]))
    | _ =>
      rw [interrogations_ignored (by decide) (by decide)]
      exact (Leads.log _ _).bind (ih d)

/-- The run up to its last report. -/
theorem drive_course (signals : List ControlSignal) (now : Nat) (d : Seen ν κ) :
    let course := c.course now d.work signals
    ∃ reports, place.Leads (l.drive report (Inbox.ready now signals)) ⟨now, d⟩ course.exit
        ⟨course.instant, ((d.told tell reports).failed course.failure).working course.work⟩ ∧
      course.reports = reports ++ (course.exit.map fun exit => .stopped exit.exitCode).toList := by
  have hreport := tells (.pending .startPending) now d
  have hstart := enacts.start now (d.told tell [.pending .startPending])
  rw [show (d.told tell [.pending .startPending]).work = d.work from rfl] at hstart
  have onward := c.onward now d.work
  unfold drive Conduct.course Conduct.last
  -- of the start no more is needed than what it comes to
  generalize c.start now d.work = started at hstart onward
  obtain ⟨result, t, k⟩ := started
  cases result with
  | none => exact ⟨[.pending .startPending], (Leads.act hreport).bind hstart.bind_none, rfl⟩
  | some result =>
    cases result with
    | error failure =>
      refine ⟨[.pending .startPending], (Leads.act hreport).bind (hstart.bind ?_), rfl⟩
      exact (Leads.log _ _).bind ((Leads.act (fails failure _ _)).bind (.pure _))
    | ok _ =>
      let opening : List StatusReport := [.pending .startPending, .running]
      let rest : List StatusReport := List.replicate (interrogations signals) .running ++ [.pending .stopPending]
      have hrunning := tells .running t ((d.told tell [.pending .startPending]).working k)
      have hserve : place.Leads (l.serve report (some now) (signals.map (now, ·))) ⟨t, (d.told tell opening).working k⟩ _
          ⟨_, (((d.told tell opening).told tell rest).failed _).working _⟩ :=
        serve_course enacts fails tells still signals onward ((d.told tell opening).working k)
      rw [← Seen.told_append] at hserve
      refine ⟨opening ++ rest, ?_, ?_⟩
      · exact (Leads.act hreport).bind (hstart.bind ((Leads.act hrunning).bind ((Leads.log _ _).bind hserve)))
      · rw [← List.append_assoc opening]
        show reportsOf signals (some (.ok ())) (c.stop t k).result =
          _ ++ (Option.map _ (exitOf _ (c.stop t k).result)).toList
        cases (c.stop t k).result with
        | none => rfl
        | some result => cases result <;> rfl

/-- **A run goes its course.** -/
theorem run_course (signals : List ControlSignal) (now : Nat) (d : Seen ν κ) :
    let course := c.course now d.work signals
    place.Leads (l.run report (Inbox.ready now signals)) ⟨now, d⟩ course.exit
      ⟨course.instant, ((d.told tell course.reports).failed course.failure).working course.work⟩ := by
  intro course
  obtain ⟨reports, hdrive, hreports⟩ : ∃ reports, place.Leads (l.drive report (Inbox.ready now signals)) ⟨now, d⟩
      course.exit ⟨course.instant, ((d.told tell reports).failed course.failure).working course.work⟩ ∧
      course.reports = reports ++ (course.exit.map fun exit => .stopped exit.exitCode).toList :=
    drive_course enacts fails tells still signals now d
  clear_value course
  obtain ⟨allReports, failure, exit, instant, work⟩ := course
  dsimp only at hdrive hreports ⊢
  subst hreports
  unfold run
  cases exit with
  | none =>
    rw [Option.map_none, Option.toList_none, List.append_nil]
    exact hdrive.bind_none
  | some exit =>
    have hlast := tells (.stopped exit.exitCode) instant (((d.told tell reports).failed failure).working work)
    rw [Option.map_some, Option.toList_some, Seen.told_append]
    exact hdrive.bind ((Leads.act hlast).bind ((Leads.log _ _).bind (.pure _)))

end ControlLoop

/-! ## Machines with an error box and a workload -/

/-- What is seen of a machine, the error box beside it and the state of a workload.  Nothing is written here. -/
def panel {γ μ ν κ : Type} (look : μ → ν) (cell : Cell γ μ) (errors : Cell γ ErrorBox) (work : γ → κ) :
    Cell γ (Seen ν κ) :=
  ⟨fun w => ⟨look (cell.get w), errors.get w, work w⟩, fun _ w => w⟩

/-- The three are apart from each other, and nothing touches them beside the programs. -/
structure Separate {γ μ κ : Type} [Background γ] (cell : Cell γ μ) (errors : Cell γ ErrorBox) (work : γ → κ) : Prop where
  machine : cell.Undisturbed
  box : errors.Undisturbed
  machine_box : cell.Apart errors
  box_machine : errors.Apart cell
  work_machine : ∀ m w, work (cell.set m w) = work w
  work_box : ∀ b w, work (errors.set b w) = work w
  work_settle : ∀ now w, work (Background.settle now w).1 = work w
  work_pass : ∀ since later w, work (Background.pass since later w).1 = work w

namespace Separate

open Cell (Leads Returns)

variable {γ μ ν κ α δ : Type} [Background γ] {look : μ → ν} {cell : Cell γ μ} {errors : Cell γ ErrorBox} {work : γ → κ}
  (apart : Separate cell errors work) {now : Nat} {v v' : ν} {box : ErrorBox} {k : κ}
include apart

theorem still : (panel look cell errors work).Still where
  get_settle now w := by
    simp only [panel, apart.machine.get_settle, apart.box.get_settle, apart.work_settle]
  get_pass since later w := by
    simp only [panel, apart.machine.get_pass, apart.box.get_pass, apart.work_pass]

variable {m : Type → Type} [Monad m] [MonadStateOf (Scene γ) m] [Playable γ m]

theorem takeFrom_any {f : μ → α × μ} {R : α → Prop} (h : ∀ x, look x = v → R (f x).1 ∧ look (f x).2 = v') :
    (panel look cell errors work).Ensures (· = ⟨now, ⟨v, box, k⟩⟩) (Act.takeFrom cell f : m α) fun a σ =>
      R a ∧ σ = ⟨now, ⟨v', box, k⟩⟩ := by
  intro s hs
  obtain ⟨rfl, hseen⟩ := Sight.mk.inj hs
  obtain ⟨hlook, hbox, hwork⟩ := Seen.mk.inj hseen
  obtain ⟨ha, hv⟩ := h (cell.get s.world) hlook
  unfold Act.takeFrom
  rw [Playable.play_modifyGet]
  refine ⟨_, rfl, ha, ?_⟩
  show Sight.mk s.now (Seen.mk (look (cell.get (cell.set _ _))) (errors.get (cell.set _ _)) (work (cell.set _ _))) = _
  rw [apart.machine.get_set, apart.box_machine, apart.work_machine, hv, hbox, hwork]

theorem takeFrom_machine {f : μ → α × μ} {a : α} (h : ∀ x, look x = v → (f x).1 = a ∧ look (f x).2 = v') :
    (panel look cell errors work).Leads (Act.takeFrom cell f : m α) ⟨now, ⟨v, box, k⟩⟩ (some a) ⟨now, ⟨v', box, k⟩⟩ :=
  .of_ensures (apart.takeFrom_any h)

/-- What is looked at does not change. -/
theorem takeFrom_unseen {P : Sight (Seen ν κ) → Prop} {f : μ → α × μ} (h : ∀ x, look (f x).2 = look x) :
    (panel look cell errors work).Ensures P (Act.takeFrom cell f : m α) fun _ => P := by
  intro s hs
  have hany : (panel look cell errors work).Ensures (· = (panel look cell errors work).sight s)
      (Act.takeFrom cell f : m α) fun _ σ => True ∧ σ = (panel look cell errors work).sight s :=
    apart.takeFrom_any fun x hx => ⟨trivial, (h x).trans hx⟩
  obtain ⟨a, ha, -, hσ⟩ := hany s rfl
  exact ⟨a, ha, hσ ▸ hs⟩

theorem update_machine {f : μ → μ} (h : ∀ x, look x = v → look (f x) = v') :
    (panel look cell errors work).Leads (Act.update cell f : m Unit) ⟨now, ⟨v, box, k⟩⟩ (some ()) ⟨now, ⟨v', box, k⟩⟩ :=
  apart.takeFrom_machine (f := fun x => ((), f x)) fun x hx => ⟨rfl, h x hx⟩

theorem update_unseen {P : Sight (Seen ν κ) → Prop} {f : μ → μ} (h : ∀ x, look (f x) = look x) :
    (panel look cell errors work).Ensures P (Act.update cell f : m Unit) fun _ => P :=
  apart.takeFrom_unseen (f := fun x => ((), f x)) h

omit [Background γ] apart in
theorem read_machine {f : μ → m δ} {r : Option δ} {σ' : Sight (Seen ν κ)}
    (h : ∀ x, look x = v → (panel look cell errors work).Leads (f x) ⟨now, ⟨v, box, k⟩⟩ r σ') :
    (panel look cell errors work).Leads (Act.read cell >>= f) ⟨now, ⟨v, box, k⟩⟩ r σ' := by
  unfold Act.read
  rw [bind_assoc]
  refine .get fun s hs => ?_
  rw [pure_bind]
  exact h _ (congrArg (·.held.shown) hs)

omit [Background γ] apart in
theorem read_machine_run {ε : Type} {f : μ → ExceptT ε m δ} {r : Option (Except ε δ)} {σ' : Sight (Seen ν κ)}
    (h : ∀ x, look x = v → (panel look cell errors work).Leads (f x).run ⟨now, ⟨v, box, k⟩⟩ r σ') :
    (panel look cell errors work).Leads (Act.read cell >>= f).run ⟨now, ⟨v, box, k⟩⟩ r σ' := by
  unfold Act.read
  rw [bind_assoc]
  refine .get_run fun s hs => ?_
  rw [pure_bind]
  exact h _ (congrArg (·.held.shown) hs)

theorem takeFrom_box (f : ErrorBox → α × ErrorBox) :
    (panel look cell errors work).Leads (Act.takeFrom errors f : m α) ⟨now, ⟨v, box, k⟩⟩ (some (f box).1)
      ⟨now, ⟨v, (f box).2, k⟩⟩ := by
  refine .step ?_
  intro s hs
  obtain ⟨rfl, hseen⟩ := Sight.mk.inj hs
  obtain ⟨hlook, hbox, hwork⟩ := Seen.mk.inj hseen
  subst hbox
  refine ⟨rfl, ?_⟩
  show Sight.mk s.now (Seen.mk (look (cell.get (errors.set _ _))) (errors.get (errors.set _ _))
    (work (errors.set _ _))) = _
  rw [apart.box.get_set, apart.machine_box, apart.work_box, hlook, hwork]

theorem update_box (f : ErrorBox → ErrorBox) :
    (panel look cell errors work).Leads (Act.update errors f : m Unit) ⟨now, ⟨v, box, k⟩⟩ (some ())
      ⟨now, ⟨v, f box, k⟩⟩ :=
  apart.takeFrom_box fun b => ((), f b)

omit apart in
theorem fails {l : ControlLoop γ} (apart : Separate cell l.errors work) :
    ControlLoop.Fails (panel look cell l.errors work) l := by
  rintro failure now ⟨v, box, k⟩
  exact apart.update_box _

end Separate

end ServiceControl
