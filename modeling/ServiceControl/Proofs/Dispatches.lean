import ServiceControl.Proofs.Memory.Rounds
import ServiceControl.Proofs.Windows.Dispatch
/-!
# Two dispatches of one service

Windows and the memory manager drive a service alike: what one is told, the other keeps (`dispatches_alike`).
-/
namespace ServiceControl

open Windows

/-! ## Images of reports -/

def ExitCode.image : ExitCode → Nat × Nat
  | .win32 code => (code, 0)
  | .service code => (Code.serviceSpecificError, code)

/-- A report as Windows has to be told. -/
def StatusReport.image (r : StatusReport) : StatusRecord where
  state := r.state.code
  accepts := if .stop ∈ r.accepts ∧ .shutdown ∈ r.accepts then Code.acceptStop + Code.acceptShutdown else 0
  win32Exit := r.exitCode.image.1
  serviceExit := r.exitCode.image.2

/-- The reports that a control loop makes. -/
inductive StatusReport.OfLoop : StatusReport → Prop
  | starting : OfLoop (.pending .startPending)
  | running : OfLoop .running
  | stopping : OfLoop (.pending .stopPending)
  | stopped (exitCode : ExitCode) : OfLoop (.stopped exitCode)

theorem reportsOf_loop (signals : List ControlSignal) (started stopped : Option (Except Failure Unit)) :
    ∀ r ∈ reportsOf signals started stopped, r.OfLoop := by
  have one {r : StatusReport} (h : r.OfLoop) : ∀ r' ∈ [r], r'.OfLoop := List.forall_mem_singleton.2 h
  have starting : ∀ r ∈ [StatusReport.pending .startPending, .running], r.OfLoop :=
    List.forall_mem_cons.2 ⟨.starting, one .running⟩
  have asked : ∀ r ∈ List.replicate (interrogations signals) StatusReport.running, r.OfLoop := by
    intro r h
    rw [List.eq_of_mem_replicate h]
    exact .running
  unfold reportsOf
  cases started with
  | none => exact one .starting
  | some result =>
    cases result with
    | error failure => exact List.forall_mem_cons.2 ⟨.starting, one (.stopped _)⟩
    | ok _ =>
      simp only [List.forall_mem_append]
      refine ⟨⟨⟨starting, asked⟩, one .stopping⟩, ?_⟩
      cases stopped with
      | none => exact fun _ h => absurd h List.not_mem_nil
      | some result => cases result <;> exact one (.stopped _)

theorem statusRecord_image {r : StatusReport} (h : r.OfLoop) : Windows.statusRecord? r = some r.image := by
  cases h with
  | stopped exitCode => cases exitCode <;> rfl
  | _ => rfl

theorem filterMap_statusRecord {reports : List StatusReport} (h : ∀ r ∈ reports, r.OfLoop) :
    reports.filterMap Windows.statusRecord? = reports.map StatusReport.image := by
  rw [← List.filterMap_eq_map]
  exact List.filterMap_congr fun r hr => statusRecord_image (h r hr)

theorem runs_iff {r : StatusReport} (h : r.OfLoop) : r.image.state = RuntimeState.running.code ↔ r = .running := by
  cases h with
  | stopped exitCode =>
    have code_ne : RuntimeState.stopped.code ≠ RuntimeState.running.code := by decide
    exact ⟨fun h => absurd h code_ne, fun h => absurd (congrArg (·.state.code) h) code_ne⟩
  | _ => decide

/-! ## Controls -/

/-- The controls that the handler knows. -/
inductive Kept : Nat → ControlSignal → Prop
  | stop : Kept Code.stopControl .stop
  | shutdown : Kept Code.shutdownControl .shutdown
  | interrogate : Kept Code.interrogateControl .interrogate

def isKept (control : Nat) : Bool :=
  control = Code.stopControl || control = Code.shutdownControl || control = Code.interrogateControl

/-- A control with the answer to it. -/
def answered (control : Nat) : Nat × Nat := (control, if isKept control then Code.handled else Code.notImplemented)

/-- The last control is the only one that asks for the end. -/
def EndsOnce (controls : List Nat) : Prop :=
  ∃ init last, controls = init ++ [last] ∧ (last = Code.stopControl ∨ last = Code.shutdownControl) ∧
    ∀ c ∈ init, c ≠ Code.stopControl ∧ c ≠ Code.shutdownControl ∧ c ≠ Code.preshutdownControl

namespace Windows

theorem signalOf_kept {control : Nat} {signal : ControlSignal} (h : Kept control signal) :
    signalOf? control = some signal := by
  cases h <;> rfl

theorem signalOf_isSome (control : Nat) : (signalOf? control).isSome = isKept control := by
  unfold signalOf? isKept
  split
  · rename_i h
    simp [h]
  · split
    · rename_i h
      simp [h]
    · split <;> simp [*]

theorem answered_eq (control : Nat) : (control, answerTo control) = answered control := by
  unfold answerTo answered
  rw [signalOf_isSome]

theorem filterMap_restricted {controls : List Nat} {script : List ControlSignal}
    (h : List.Forall₂ Kept (controls.filter isKept) script) : controls.filterMap signalOf? = script := by
  induction controls generalizing script with
  | nil =>
    cases h
    rfl
  | cons c controls ih =>
    cases hc : isKept c with
    | true =>
      rw [List.filter_cons_of_pos hc] at h
      cases h with
      | cons kept rest => rw [List.filterMap_cons_some (signalOf_kept kept), ih rest]
    | false =>
      rw [List.filter_cons_of_neg (by rw [hc]; exact Bool.false_ne_true)] at h
      have none_passed : signalOf? c = none := by
        rw [← Option.not_isSome_iff_eq_none, signalOf_isSome, hc]
        exact Bool.false_ne_true
      rw [List.filterMap_cons_none none_passed, ih h]

/-- All that is asked for is sent. -/
theorem upToLast_endsOnce {controls : List Nat} (h : EndsOnce controls) (more : List Nat) :
    upToLast (controls ++ more) = controls := by
  obtain ⟨init, last, rfl, ending, before⟩ := h
  induction init with
  | nil =>
    have hlast : isLast last = true := by
      obtain rfl | rfl := ending <;> rfl
    show upToLast (last :: more) = [last]
    unfold upToLast
    rw [if_pos hlast]
  | cons c init ih =>
    obtain ⟨stop, shutdown, preshutdown⟩ := before c List.mem_cons_self
    have goesOn : ¬isLast c = true := by
      unfold isLast
      simp [stop, shutdown, preshutdown]
    show upToLast (c :: (init ++ [last] ++ more)) = c :: (init ++ [last])
    rw [upToLast, if_neg goesOn, ih fun c' h' => before c' (List.mem_cons_of_mem _ h')]

/-! ## What Windows is told -/

namespace Board

variable {v : Board}

theorem tell_loop {r : StatusReport} (h : r.OfLoop) (v : Board) :
    v.tell r = (v.call .setStatus (.setStatus r.image)).send r.image := by
  unfold tell
  rw [statusRecord_image h]

theorem tell_running (armed : v.armed = true) :
    (v.tell .running).armed = false ∧
      (v.tell .running).answers = (v.sent.map fun c => (c, answerTo c)).reverse ++ v.answers := by
  rw [tell_loop .running]
  unfold send
  rw [if_pos]
  · exact ⟨rfl, rfl⟩
  · show (v.armed && _) = true
    rw [armed]
    rfl

theorem tell_other {r : StatusReport} (h : r.OfLoop) (other : v.armed = true → r ≠ .running) :
    (v.tell r).armed = v.armed ∧ (v.tell r).answers = v.answers ∧ (v.tell r).sent = v.sent := by
  rw [tell_loop h]
  unfold send
  rw [if_neg]
  · exact ⟨rfl, rfl, rfl⟩
  · show ¬(v.armed && _) = true
    rw [Bool.and_eq_true, decide_eq_true_eq, runs_iff h]
    exact fun ⟨armed, running⟩ => other armed running

theorem toldAll_unarmed {reports : List StatusReport} (h : ∀ r ∈ reports, r.OfLoop) (unarmed : v.armed = false) :
    (v.toldAll reports).answers = v.answers := by
  induction reports generalizing v with
  | nil => rfl
  | cons r reports ih =>
    obtain ⟨armed, answers, -⟩ := tell_other (v := v) (h r List.mem_cons_self) fun armed =>
      absurd (unarmed.symm.trans armed) Bool.false_ne_true
    exact (ih (fun r' h' => h r' (List.mem_cons_of_mem _ h')) (armed.trans unarmed)).trans answers

/-- **The controls are answered once the service has reported that it runs.** -/
theorem toldAll_answers {reports : List StatusReport} (h : ∀ r ∈ reports, r.OfLoop) (armed : v.armed = true) :
    (v.toldAll reports).answers = (if .running ∈ reports then v.sent.map answered else []).reverse ++ v.answers := by
  induction reports generalizing v with
  | nil => rfl
  | cons r reports ih =>
    have hrest : ∀ r' ∈ reports, r'.OfLoop := fun r' h' => h r' (List.mem_cons_of_mem _ h')
    show (toldAll reports (v.tell r)).answers = _
    by_cases running : r = .running
    · -- the controls are sent now, and not again
      subst running
      obtain ⟨unarmed, answers⟩ := tell_running armed
      rw [toldAll_unarmed hrest unarmed, answers, if_pos List.mem_cons_self]
      simp only [answered_eq]
    · obtain ⟨still, answers, sent⟩ := tell_other (v := v) (h r List.mem_cons_self) fun _ => running
      rw [ih hrest (still.trans armed), answers, sent]
      simp only [List.mem_cons, Ne.symm running, false_or]

end Board

/-- Windows calls the entry point, takes the control handler, and sends controls of which the last asks for the end. -/
structure Machine.Runs (m : Machine) : Prop where
  called : 0 < m.mainCalls.getD m.board.usualCalls
  registers : (m.takeReply .registerHandler).1.Grants
  asked : EndsOnce m.controls

theorem Machine.Runs.sent {m : Machine} (runs : m.Runs) : m.board.sent = m.controls :=
  upToLast_endsOnce runs.asked _

theorem Machine.Runs.grants {m : Machine} (runs : m.Runs) : (nextReply m.board.registering).1.Grants := by
  have h := runs.registers
  rwa [takeReply_eq] at h

end Windows

/-! ## Both dispatches -/

section Dispatches

variable {γ₁ γ₂ κ : Type} [Background γ₁] [Background γ₂] {windows : Cell γ₁ Windows.Machine}
  {memory : Cell γ₂ Memory.Machine} {l₁ : ControlLoop γ₁} {l₂ : ControlLoop γ₂} {work₁ : γ₁ → κ} {work₂ : γ₂ → κ}
  {conduct : Conduct κ} (apart₁ : Separate windows l₁.errors work₁) (apart₂ : Separate memory l₂.errors work₂)
  (enacts₁ : l₁.workload.Enacts (Windows.boardPanel windows l₁.errors work₁) l₁.view conduct)
  (enacts₂ : l₂.workload.Enacts (Memory.docketPanel memory l₂.errors work₂) l₂.view conduct)
include apart₁ apart₂ enacts₁ enacts₂

/-- The exit of a loop is told by its signals and its workload, whatever it reports to. -/
theorem exits_alike (signals : List ControlSignal) {t₁ : Scene γ₁} {t₂ : Scene γ₂} (sameTime : t₁.now = t₂.now)
    (sameWork : work₁ t₁.world = work₂ t₂.world) :
    ((l₁.run (Windows.report windows) (Inbox.ready t₁.now signals)).finish t₁).1 =
      ((l₂.run (fun r => Memory.onMachine memory (Memory.keepReport r)) (Inbox.ready t₂.now signals)).finish t₂).1 := by
  obtain ⟨h₁, -⟩ := ControlLoop.run_course enacts₁ (Separate.fails apart₁) (Windows.report_tells apart₁) apart₁.still
    signals t₁.now _ t₁ rfl
  obtain ⟨h₂, -⟩ := ControlLoop.run_course enacts₂ (Separate.fails apart₂) (Memory.keepReport_tells apart₂) apart₂.still
    signals t₂.now _ t₂ rfl
  have same : conduct.course t₁.now (work₁ t₁.world) signals = conduct.course t₂.now (work₂ t₂.world) signals := by
    rw [sameTime, sameWork]
  exact h₁.trans ((congrArg Course.exit same).trans h₂.symm)

/-- **Windows is told what the memory manager keeps**, one for one, whatever becomes of the reports. -/
theorem dispatches_alike (name₁ name₂ : String) (named : Windows.Speakable name₁)
    (speakable : Windows.Speakable l₁.name) (s₁ : Scene γ₁) (s₂ : Scene γ₂) (runs : (windows.get s₁.world).Runs)
    (restricted : List.Forall₂ Kept ((windows.get s₁.world).controls.filter isKept) (memory.get s₂.world).script)
    (sameTime : s₁.now = s₂.now) (sameWork : work₁ s₁.world = work₂ s₂.world)
    (sameBox : l₁.errors.get s₁.world = l₂.errors.get s₂.world) :
    let m₁ := windows.get s₁.world
    let m₂ := memory.get s₂.world
    let ran₁ := (Windows.dispatch windows name₁ l₁).run.finish s₁
    let ran₂ := (Memory.dispatch memory name₂ l₂).run.finish s₂
    let after₁ := ran₁.2.world
    let after₂ := ran₂.2.world
    ∃ reports : List StatusReport,
      (memory.get after₂).reports = reports.reverse ++ m₂.reports ∧
      (windows.get after₁).records = (reports.map StatusReport.image).reverse ++ m₁.records ∧
      (windows.get after₁).answers =
        (if .running ∈ reports then m₁.controls.map answered else []).reverse ++ m₁.answers ∧
      work₁ after₁ = work₂ after₂ ∧ l₁.errors.get after₁ = l₂.errors.get after₂ ∧ ran₁.1.isSome = ran₂.1.isSome ∧
      m₁.sent.filterMap Windows.signalOf? = m₂.script ∧
      ∀ t₁ t₂, t₁.now = s₁.now → work₁ t₁.world = work₁ s₁.world → t₂.now = s₂.now → work₂ t₂.world = work₂ s₂.world →
        ((l₁.run (Windows.report windows) (Inbox.ready t₁.now (m₁.sent.filterMap Windows.signalOf?))).finish t₁).1 =
          ((l₂.run (fun r => Memory.onMachine memory (Memory.keepReport r))
            (Inbox.ready t₂.now m₂.script)).finish t₂).1 := by
  intro m₁ m₂ ran₁ ran₂ after₁ after₂
  let course := conduct.course s₁.now (work₁ s₁.world) m₂.script
  have signals : m₁.board.signals = m₂.script := by
    unfold Board.signals
    rw [runs.sent]
    exact filterMap_restricted restricted
  have reported : ∀ r ∈ course.reports, r.OfLoop := reportsOf_loop _ _ _
  obtain ⟨returned₁, seen₁⟩ : ran₁.1 = (course.exit.map fun _ => _) ∧
      (Windows.boardPanel windows l₁.errors work₁).sight ran₁.2
        = ⟨s₁.now, m₁.board.begun.ran course (l₁.errors.get s₁.world)⟩ := by
    have h := Windows.dispatch_course apart₁ enacts₁ s₁.now (l₁.errors.get s₁.world) (work₁ s₁.world) speakable
      runs.grants named runs.called
    dsimp only at h
    rw [signals] at h
    exact h s₁ rfl
  obtain ⟨returned₂, seen₂⟩ := Memory.dispatch_course apart₂ enacts₂ name₂ s₂.now m₂.script m₂.dispatchFault m₂.reports
    (l₂.errors.get s₂.world) (work₂ s₂.world) s₂ rfl
  rw [← sameTime, ← sameWork, ← sameBox] at seen₂
  rw [← sameTime, ← sameWork] at returned₂
  refine ⟨course.reports, congrArg (·.held.shown.reports) seen₂, ?_, ?_, ?_, ?_, ?_, signals, ?_⟩
  · rw [show (windows.get after₁).records = _ from congrArg (·.held.shown.records) seen₁]
    rw [← filterMap_statusRecord reported]
    exact Board.toldAll_records course.reports m₁.board.begun
  · rw [show (windows.get after₁).answers = _ from congrArg (·.held.shown.answers) seen₁, ← runs.sent]
    exact Board.toldAll_answers (v := m₁.board.begun) reported rfl
  · exact (congrArg (·.held.work) seen₁).trans (congrArg (·.held.work) seen₂).symm
  · exact (congrArg (·.held.box) seen₁).trans (congrArg (·.held.box) seen₂).symm
  · have returned₂ : ran₂.1 = (course.exit.map fun _ => _) := returned₂
    rw [returned₁, returned₂, Option.isSome_map, Option.isSome_map]
  · intro t₁ t₂ now₁ hwork₁ now₂ hwork₂
    rw [show m₁.sent.filterMap signalOf? = m₂.script from signals]
    exact exits_alike apart₁ apart₂ enacts₁ enacts₂ _ (now₁.trans (sameTime.trans now₂.symm))
      (hwork₁.trans (sameWork.trans hwork₂.symm))

end Dispatches

open Scenario (Stage) in
/-- Windows does not take the first report and sends controls that the handler does not know, and the workload looks at its
service and fails to stop. -/
theorem dispatches_alike_busy :
    let config : ServiceConfig := { name := "svcA" }
    let job : Workload.Scripted := { observes := true, onStop := [{ ms := 30, failure := some ⟨"busy", []⟩ }] }
    let script : Windows.Machine := {
      controls := [2, 4, 200, 1]
      replies := fun f => if f = .setStatus then [.fails 5, .succeeds] else [] }
    let machine : Memory.Machine := { script := [.interrogate, .stop] }
    let s₁ : Scene (Stage (Solo Windows.Machine)) := { world := { manager := { machine := script, job } } }
    let s₂ : Scene (Stage (Solo Memory.Machine)) := { world := { manager := { machine, job } } }
    let l₁ : ControlLoop (Stage (Solo Windows.Machine)) :=
      ⟨Workload.scripted Solo.jobCell, (Windows.gateway Solo.machineCell).view config, Solo.errorsCell⟩
    let l₂ : ControlLoop (Stage (Solo Memory.Machine)) :=
      ⟨Workload.scripted Solo.jobCell, (Memory.gateway Solo.machineCell).view config, Solo.errorsCell⟩
    let reports : List StatusReport :=
      [.pending .startPending, .running, .running, .pending .stopPending, .stopped (.service 2)]
    Windows.Speakable "svcA" ∧ script.Runs ∧ List.Forall₂ Kept (script.controls.filter isKept) machine.script ∧
      ∃ after₁ after₂, ((Windows.dispatch Solo.machineCell "svcA" l₁).run.finish s₁).2.world = after₁ ∧
        ((Memory.dispatch Solo.machineCell "svcA" l₂).run.finish s₂).2.world = after₂ ∧
        (Solo.machineCell.get after₂).reports = reports.reverse ∧
        (Solo.machineCell.get after₁).records = (reports.map StatusReport.image).reverse ∧
        (Solo.machineCell.get after₁).answers = [(1, 0), (200, 120), (4, 0), (2, 120)] ∧
        Solo.work after₁ = Solo.work after₂ ∧ Solo.errorsCell.get after₁ = Solo.errorsCell.get after₂ := by
  intro config job script machine s₁ s₂ l₁ l₂ reports
  have speakable : Windows.Speakable "svcA" := by
    unfold Speakable
    decide
  have runs : script.Runs := ⟨by decide, fun _ h => (by cases h), [2, 4, 200], 1, rfl, .inl rfl, by decide⟩
  have restricted : List.Forall₂ Kept (script.controls.filter isKept) machine.script :=
    .cons .interrogate (.cons .stop .nil)
  have apart₁ : Separate Solo.machineCell l₁.errors Solo.work := Solo.separate
  have apart₂ : Separate Solo.machineCell l₂.errors Solo.work := Solo.separate
  obtain ⟨reports', kept, records, answers, work, box, -, -, -⟩ := dispatches_alike apart₁ apart₂
    (Solo.enacts fun _ => Windows.status_quiet Solo.separate config)
    (Solo.enacts fun _ => Memory.status_quiet Solo.separate config) "svcA" "svcA" speakable speakable s₁ s₂ runs
    restricted rfl rfl rfl
  have told : (Solo.machineCell.get ((Memory.dispatch Solo.machineCell "svcA" l₂).run.finish s₂).2.world).reports
      = reports.reverse := by
    decide +kernel
  generalize ((Windows.dispatch Solo.machineCell "svcA" l₁).run.finish s₁).2.world = after₁ at *
  generalize ((Memory.dispatch Solo.machineCell "svcA" l₂).run.finish s₂).2.world = after₂ at *
  obtain rfl : reports' = reports := by
    have h := kept.symm.trans told
    rw [show (Solo.machineCell.get s₂.world).reports = [] from rfl, List.append_nil] at h
    exact List.reverse_inj.1 h
  exact ⟨speakable, runs, restricted, after₁, after₂, rfl, rfl, told, records.trans (List.append_nil _), answers, work,
    box⟩

end ServiceControl
