import ServiceControl.Proofs.Memory.Oversight
/-!
# Why runs fail

A run of a controller that has its error box to itself fails with a failure of its workload or of its dispatcher, and
with nothing else (`run_faults`).
-/
namespace ServiceControl.Memory

open Cell (Admits Ensures Keeps Succeeds Yields)

variable {γ : Type} [Background γ] {c : Controller γ Unit String} {cell : Cell γ Machine}

/-- The dispatcher has failed. -/
def DispatchFault (e : ServiceError) : Prop := ∃ reason, e = .dispatch reason

/-- The workload has failed, or the dispatcher. -/
def RunFault (e : ServiceError) : Prop := (∃ failure, e = .workload failure) ∨ DispatchFault e

/-- If it comes to an error, it is of this kind. -/
def Failing (E : ServiceError → Prop) (r : Except ServiceError Unit) : Prop := ∀ e, r = .error e → E e

/-- There is nothing in the box but a failure of a workload. -/
def Blaming (σ : Sight ErrorBox) : Prop := ∀ e, σ.held.content = some e → ∃ failure, e = .workload failure

/-- **The error box of a controller is its own.**  What is put into it is there, or there is no such box, which stays empty;
the machine is not in it, and the workload does not reach it. -/
structure Secluded (c : Controller γ Unit String) (cell : Cell γ Machine) : Prop where
  still : c.errors.Still
  get_set : ∀ box w, c.errors.get (c.errors.set box w) = box ∨ c.errors.get (c.errors.set box w) = .empty
  apart : c.errors.Apart cell
  start : ∀ box, c.errors.Keeps (fun σ => σ.held = box) False (c.workload.start c.view).run
  stop : ∀ box, c.errors.Keeps (fun σ => σ.held = box) False (c.workload.stop c.view).run

theorem blaming_timeless : Cell.Timeless Blaming := fun _ _ h => h

omit [Background γ] in
/-- What is asked of the machine is not seen in a place apart from it. -/
theorem asking_apart {α β : Type} {place : Cell γ β} {P : Sight β → Prop} (apart : place.Apart cell) {ask : Ask α}
    {R : Except ServiceError α → Prop} (h : ∀ m, R (ask.run.run m).1) :
    place.Yields P (asking cell ask) fun r σ => R r ∧ P σ := by
  intro s hs
  refine ⟨_, rfl, h (cell.get s.world), ?_⟩
  show P ⟨s.now, place.get (cell.set _ s.world)⟩
  rwa [apart]

omit [Background γ] in
/-- Telling the state of a service is nothing to a place apart from the machine. -/
theorem status_apart {β : Type} {place : Cell γ β} {P : Sight β → Prop} (apart : place.Apart cell)
    (gated : c.gateway = gateway cell) : place.Ensures P c.status fun _ => P := by
  have hask {α : Type} (ask : Ask α) : place.Yields P (asking cell ask) fun _ => P :=
    (asking_apart apart (R := fun _ => True) fun _ => trivial).weaken fun _ _ h => h.2
  unfold Controller.status
  rw [gated]
  refine Gateway.status_quiet (hask _) (fun _ _ => hask _) (fun _ => ?_) (fun _ => ?_) fun _ => ?_
  · exact Yields.now_any.bind_ok fun now => hask _
  · exact .takeFrom_apart apart _
  · exact .takeFrom_apart apart _

variable (secluded : Secluded c cell)
include secluded

/-- What is put into the box is the failure of a workload, or it is not put there. -/
theorem box_blames {P : Sight ErrorBox → Prop} {f : ErrorBox → ErrorBox}
    (blames : ∀ box e, (f box).content = some e → ∃ failure, e = .workload failure) :
    c.errors.Ensures P (Act.update c.errors f : Task γ Unit) fun _ => Blaming := by
  refine fun s _ => ⟨(), rfl, fun e he => ?_⟩
  have content : (c.errors.get (c.errors.set (f (c.errors.get s.world)) s.world)).content = some e := he
  rcases secluded.get_set (f (c.errors.get s.world)) s.world with put | stays
  · rw [put] at content
    exact blames _ e content
  · rw [stays] at content
    cases content

theorem dispatch_faults : c.errors.Admits Blaming (dispatch cell c.name ⟨c.workload, c.view, c.errors⟩).run
    fun r σ => Failing DispatchFault r ∧ Blaming σ := by
  have starts : c.errors.Keeps Blaming False (c.workload.start c.view).run := .of_held secluded.start blaming_timeless
  have stops : c.errors.Keeps Blaming False (c.workload.stop c.view).run := .of_held secluded.stop blaming_timeless
  have reports (report : StatusReport) :
      c.errors.Ensures Blaming (onMachine cell (keepReport report)) fun _ => Blaming :=
    .takeFrom_apart secluded.apart _
  have fails (failure : Failure) :
      c.errors.Ensures Blaming (ControlLoop.fail ⟨c.workload, c.view, c.errors⟩ failure) fun _ => Blaming :=
    box_blames secluded fun _ e he => ⟨failure, (Option.some.inj he).symm⟩
  have hscript : c.errors.Yields Blaming (asking cell takeScript) (Succeeds fun _ => Blaming) := by
    refine (asking_apart secluded.apart (R := fun r => ∃ script, r = .ok script) fun m => ?_).weaken ?_
    · exact ⟨m.script, congrArg Prod.fst takeScript_answers⟩
    · rintro _ σ ⟨⟨script, rfl⟩, hσ⟩
      exact hσ
  have hfault : c.errors.Yields Blaming (asking cell takeFault) fun r σ => Failing DispatchFault r ∧ Blaming σ := by
    refine asking_apart secluded.apart fun m e he => ?_
    have answered := congrArg Prod.fst (takeFault_answers (m := m))
    rw [he] at answered
    cases fault : m.dispatchFault with
    | some reason =>
      rw [fault] at answered
      exact ⟨reason, Except.error.inj answered⟩
    | none =>
      rw [fault] at answered
      cases answered
  have hloop (inbox : Inbox) : c.errors.Admits Blaming (ControlLoop.run ⟨c.workload, c.view, c.errors⟩
      (fun report => onMachine cell (keepReport report)) inbox) fun _ => Blaming :=
    (ControlLoop.run_keeps reports fails stops secluded.still blaming_timeless starts False.elim).admits
  unfold dispatch
  refine Admits.bind_ok (Ensures.admits (Yields.call hscript)) fun script => ?_
  refine Admits.bind_ok (Ensures.admits (Yields.log _ _)) fun _ => ?_
  refine Admits.bind_ok (Ensures.admits Yields.now_any) fun now => ?_
  exact Admits.bind_ok (.lift (hloop _)) fun _ => Ensures.admits (Yields.call hfault)

theorem runDispatched_faults (gated : c.gateway = gateway cell) :
    c.errors.Admits Blaming c.runDispatched.run fun r _ => Failing RunFault r := by
  have hbox (r : Except ServiceError Unit) :
      c.errors.Ensures (fun σ => Failing DispatchFault r ∧ Blaming σ)
        (Act.takeFrom c.errors ErrorBox.take : Task γ (Option ServiceError))
        fun kept _ => Failing DispatchFault r ∧ ∀ e, kept = some e → ∃ failure, e = .workload failure :=
    fun _ hs => ⟨_, rfl, hs⟩
  unfold Controller.runDispatched
  rw [gated]
  refine (dispatch_faults secluded).attempt_bind fun r => ?_
  refine Admits.bind_ok (.lift (Ensures.admits (hbox r))) fun kept => ?_
  -- what was kept in the box is told before what the dispatcher came to
  cases kept with
  | some e =>
    refine Ensures.admits (Yields.throw fun σ hσ => ?_)
    intro e' he
    exact .inl (hσ.2 e' (congrArg some (Except.error.inj he)))
  | none =>
    refine Ensures.admits ((Yields.result r).weaken ?_)
    rintro _ σ ⟨rfl, dispatched, -⟩ e he
    exact .inr (dispatched e he)

omit secluded in
theorem asOp_faults {P : Sight ErrorBox → Prop} (callback : Callback γ Unit) :
    c.errors.Admits P (Workload.asOp callback).run fun r _ => Failing RunFault r := by
  refine Admits.map (f := Except.mapError ServiceError.workload) (.any callback.run) fun r σ _ e he => ?_
  cases r with
  | ok _ => cases he
  | error failure => exact .inl ⟨failure, (Except.error.inj he).symm⟩

omit secluded in
theorem runInteractive_faults {P : Sight ErrorBox → Prop} :
    c.errors.Admits P c.runInteractive.run fun r _ => Failing RunFault r := by
  have hlog (text : String) : c.errors.Yields P (Act.info text : Op γ Unit) (Succeeds fun _ => P) := Yields.log _ _
  have hkill {P : Sight ErrorBox → Prop} :
      c.errors.Admits P (liftM c.killSignal : Op γ (Wait γ)).run (Succeeds fun _ _ => True) :=
    Admits.lift (x := (liftM c.killSignal : Task γ (Wait γ))) (.any _)
  unfold Controller.runInteractive
  refine Admits.bind_ok (Ensures.admits (hlog _)) fun _ => ?_
  refine (asOp_faults _).bind_run (fun _ => ?_) fun _ _ h e he => h e (by rw [← Except.error.inj he])
  refine hkill.bind_ok fun kill => ?_
  refine Admits.bind_ok (.lift (.any _)) fun _ => ?_
  refine Admits.bind_ok (Ensures.admits Yields.get) fun scene => ?_
  split
  · exact Admits.bind_ok (Ensures.admits (Yields.log _ _)) fun _ => asOp_faults _
  · exact Admits.bind_ok (Ensures.admits (Yields.log _ _)) fun _ => asOp_faults _

/-- **A run that fails, fails with its workload or with its dispatcher.** -/
theorem run_faults (gated : c.gateway = gateway cell) :
    c.errors.Admits (fun _ => True) c.run.run fun r _ => Failing RunFault r := by
  have hempty : c.errors.Ensures (fun _ => True) (Act.update c.errors fun _ => ErrorBox.empty : Task γ Unit)
      fun _ => Blaming :=
    box_blames secluded fun _ _ he => nomatch he
  unfold Controller.run
  refine Admits.bind_ok (.lift (Ensures.admits hempty)) fun _ => ?_
  split
  · exact runInteractive_faults
  · exact runDispatched_faults secluded gated

end ServiceControl.Memory
