import ServiceControl.Memory.Machine
/-!
# What the memory manager answers

The answer to each thing that the machine is asked, and the machine after it.  What is asked of a service brings it up to
date first, whether it is refused or not.
-/
namespace ServiceControl.Memory

variable {α β : Type} {m m₁ m₂ : Machine}

/-- What a machine answers, and the machine after that. -/
def Answers (x : Ask α) (m : Machine) (r : Except ServiceError α) (after : Machine) : Prop := x.run.run m = (r, after)

namespace Answers

theorem pure (a : α) : Answers (Pure.pure a) m (.ok a) m := rfl

theorem throw (e : ServiceError) : Answers (MonadExcept.throw e : Ask α) m (.error e) m := rfl

theorem change (f : Machine → Machine) : Answers (modify f) m (.ok ()) (f m) := rfl

theorem get {f : Machine → Ask α} {r : Except ServiceError α} (h : Answers (f m) m r m₁) :
    Answers (MonadState.get >>= f) m r m₁ := h

theorem bind {x : Ask α} {f : α → Ask β} {a : α} {r : Except ServiceError β} (hx : Answers x m (.ok a) m₁)
    (hf : Answers (f a) m₁ r m₂) : Answers (x >>= f) m r m₂ := by
  unfold Answers at *
  rw [ExceptT.run_bind, StateT.run_bind, hx]
  exact hf

/-- What comes after a refusal is not asked. -/
theorem bind_error {x : Ask α} {f : α → Ask β} {e : ServiceError} (hx : Answers x m (.error e) m₁) :
    Answers (x >>= f) m (.error e) m₁ := by
  unfold Answers at *
  rw [ExceptT.run_bind, StateT.run_bind, hx]
  rfl

theorem unique {x : Ask α} {r r' : Except ServiceError α} (h : Answers x m r m₁) (h' : Answers x m r' m₂) :
    r = r' ∧ m₁ = m₂ :=
  Prod.mk.inj (h.symm.trans h')

/-- What cannot be refused. -/
theorem lift {x : StateM Machine α} {a : α} (h : x.run m = (a, m₁)) : Answers (liftM x) m (.ok a) m₁ := by
  show (Except.ok <$> x).run m = _
  rw [StateT.run_map, h]
  rfl

end Answers

namespace Machine

/-- The machine that remembers one thing more. -/
def remembering (m : Machine) (e : Event) : Machine := { m with history := e :: m.history }

def asked (m : Machine) (operation : Operation) : Machine := m.remembering (.asked operation)

def withService (m : Machine) (name : String) (s : Service) : Machine := { m with services := m.services.put name s }

theorem withService_withService (m : Machine) (name : String) (s s' : Service) :
    (m.withService name s).withService name s' = m.withService name s' := by
  unfold withService
  rw [NameMap.put_put]

def holdingSession (m : Machine) : Machine :=
  { m with openSessions := m.openSessions + 1, history := .sessionOpened :: m.history }

def holdingEntry (m : Machine) : Machine :=
  { m with openEntries := m.openEntries + 1, history := .entryOpened :: m.history }

/-- The machine once it was asked something of a service, which is up to date then. -/
def touched (m : Machine) (operation : Operation) (now : Nat) (name : String) (s : Service) : Machine :=
  (m.asked operation).withService name (s.refresh now m.stopBehavior)

end Machine

variable {name : String} {s : Service} {now : Nat} {operation : Operation}

theorem record_answers : Answers (record operation) m (.ok ()) (m.asked operation) := .change _

theorem isInstalled_of_find? (h : m.services.find? name = some s) : m.isInstalled name = true := by
  rw [Machine.isInstalled, NameMap.has, h, Option.isSome_some]

theorem isInstalled_of_absent (h : m.services.find? name = none) : m.isInstalled name = false := by
  rw [Machine.isInstalled, NameMap.has, h, Option.isSome_none]

/-! ## Sessions and entries -/

theorem connect_denied (h : m.deniesAccess = true) :
    Answers connect m (.error .permissionDenied) (m.asked .connect) := by
  unfold connect
  refine record_answers.bind (.get ?_)
  rw [if_pos (by exact h)]
  exact (Answers.throw _).bind_error

theorem connect_granted (h : m.deniesAccess = false) :
    Answers connect m (.ok ()) (m.asked .connect).holdingSession := by
  unfold connect
  refine record_answers.bind (.get ?_)
  rw [if_neg (by exact Bool.eq_false_iff.1 h)]
  exact .change _

theorem openEntry_absent (h : m.services.find? name = none) :
    Answers (openEntry name) m (.error (.notInstalled name)) (m.asked .openEntry) := by
  unfold openEntry
  refine record_answers.bind (.get ?_)
  rw [if_pos (by rw [Bool.not_eq_true']; exact isInstalled_of_absent h)]
  exact (Answers.throw _).bind_error

theorem openEntry_found (h : m.services.find? name = some s) :
    Answers (openEntry name) m (.ok name) (m.asked .openEntry).holdingEntry := by
  unfold openEntry
  refine record_answers.bind (.get ?_)
  rw [if_neg (by rw [Bool.not_eq_true', Bool.not_eq_false]; exact isInstalled_of_find? h)]
  exact (Answers.change _).bind (.pure _)

theorem create_taken {spec : ServiceSpec} (h : m.services.find? spec.name = some s) :
    Answers (create spec) m (.error (.alreadyExists spec.name)) (m.asked .create) := by
  unfold create
  refine record_answers.bind (.get ?_)
  rw [if_pos (by exact isInstalled_of_find? h)]
  exact (Answers.throw _).bind_error

theorem create_free {spec : ServiceSpec} (h : m.services.find? spec.name = none) :
    Answers (create spec) m (.ok spec.name) ((m.asked .create).withService spec.name { spec }).holdingEntry := by
  unfold create
  refine record_answers.bind (.get ?_)
  rw [if_neg (by exact Bool.eq_false_iff.1 (isInstalled_of_absent h))]
  exact (Answers.change _).bind ((Answers.change _).bind (.pure _))

/-! ## Services -/

theorem touch_absent (h : m.services.find? name = none) :
    Answers (touch operation now name) m (.error (.notInstalled name)) (m.asked operation) := by
  unfold touch
  refine record_answers.bind (.get ?_)
  rw [show (m.asked operation).services.find? name = none from h]
  exact .throw _

theorem touch_found (h : m.services.find? name = some s) :
    Answers (touch operation now name) m (.ok (s.refresh now m.stopBehavior)) (m.touched operation now name s) := by
  unfold touch
  refine record_answers.bind (.get ?_)
  rw [show (m.asked operation).services.find? name = some s from h]
  exact (Answers.change _).bind (.pure _)

theorem query_absent (h : m.services.find? name = none) :
    Answers (query now name) m (.error (.notInstalled name)) (m.asked .query) :=
  (touch_absent h).bind_error

theorem query_found (h : m.services.find? name = some s) :
    Answers (query now name) m (.ok (s.refresh now m.stopBehavior).status) (m.touched .query now name s) :=
  (touch_found h).bind (.pure _)

theorem start_absent (h : m.services.find? name = none) :
    Answers (start now name) m (.error (.notInstalled name)) (m.asked .start) :=
  (touch_absent h).bind_error

/-- A service that has not stopped is not started. -/
theorem start_unstopped (h : m.services.find? name = some s) (going : (s.refresh now m.stopBehavior).phase ≠ .stopped) :
    Answers (start now name) m (.error alreadyRunning) (m.touched .start now name s) := by
  refine (touch_found h).bind ?_
  rw [if_pos going]
  exact (Answers.throw _).bind_error

theorem start_stopped (h : m.services.find? name = some s) (stopped : (s.refresh now m.stopBehavior).phase = .stopped) :
    Answers (start now name) m (.ok ()) { (m.asked .start).withService name
      { s with phase := .running m.nextPid, starts := s.starts + 1 } with nextPid := m.nextPid + 1 } := by
  rw [← Machine.withService_withService _ name (s.refresh now m.stopBehavior)]
  refine (touch_found h).bind ?_
  rw [if_neg (by exact not_not_intro stopped)]
  exact .get ((Answers.change _).bind (.change _))

theorem control_absent (h : m.services.find? name = none) (signal : ControlSignal) :
    Answers (control now name signal) m (.error (.notInstalled name)) (m.asked .control) :=
  (touch_absent h).bind_error

theorem control_interrogate (h : m.services.find? name = some s) :
    Answers (control now name .interrogate) m (.ok (s.refresh now m.stopBehavior).status)
      (m.touched .control now name s) :=
  (touch_found h).bind (.pure _)

/-- Of the other signals a service takes none but the request to stop. -/
theorem control_other (h : m.services.find? name = some s) {signal : ControlSignal} (hi : signal ≠ .interrogate)
    (hs : signal ≠ .stop) :
    Answers (control now name signal) m (.error (notAccepted signal s.spec.name)) (m.touched .control now name s) := by
  refine (touch_found h).bind ?_
  cases signal with
  | interrogate => exact absurd rfl hi
  | stop => exact absurd rfl hs
  | _ => exact .throw _

theorem control_stop_stopped (h : m.services.find? name = some s)
    (stopped : (s.refresh now m.stopBehavior).phase = .stopped) :
    Answers (control now name .stop) m (.error notStarted) (m.touched .control now name s) := by
  refine (touch_found h).bind (.get ?_)
  rw [stopped]
  exact .throw _

theorem control_stop_stopping {pid since : Nat} (h : m.services.find? name = some s)
    (stopping : (s.refresh now m.stopBehavior).phase = .stopping pid since) :
    Answers (control now name .stop) m (.error notValid) (m.touched .control now name s) := by
  refine (touch_found h).bind (.get ?_)
  rw [stopping]
  exact .throw _

section Running

variable {pid : Nat} (h : m.services.find? name = some s) (running : (s.refresh now m.stopBehavior).phase = .running pid)
include h running

theorem control_stop_rejected (rejects : m.stopBehavior = .reject) :
    Answers (control now name .stop) m (.error notValid) (m.touched .control now name s) := by
  refine (touch_found h).bind (.get ?_)
  rw [running]
  dsimp only
  rw [if_pos (by exact rejects)]
  exact (Answers.throw _).bind_error

/-- A service that takes the request may have stopped at once. -/
theorem control_stop_accepted (accepts : m.stopBehavior ≠ .reject) :
    let phase := (Phase.stopping pid now).refresh now m.stopBehavior
    Answers (control now name .stop) m (.ok phase.status) ((m.asked .control).withService name { s with phase }) := by
  intro phase
  rw [← Machine.withService_withService _ name (s.refresh now m.stopBehavior)]
  refine (touch_found h).bind (.get ?_)
  rw [running]
  dsimp only
  rw [if_neg (by exact accepts)]
  exact (Answers.change _).bind (.pure _)

end Running

theorem setRecovery_absent (h : m.services.find? name = none) (action : RecoveryAction) :
    Answers (setRecovery now name action) m (.error (.notInstalled name)) (m.asked .setRecovery) :=
  (touch_absent h).bind_error

theorem setRecovery_found (h : m.services.find? name = some s) (action : RecoveryAction) :
    Answers (setRecovery now name action) m (.ok ()) ((m.asked .setRecovery).withService name
      { s.refresh now m.stopBehavior with recovery := action }) := by
  rw [← Machine.withService_withService _ name (s.refresh now m.stopBehavior)]
  exact (touch_found h).bind (.change _)

theorem delete_refused (refuses : m.failsDelete = true) :
    Answers (delete name) m (.error markedForDeletion) (m.asked .delete) := by
  unfold delete
  refine record_answers.bind (.get ?_)
  rw [if_pos (by exact refuses)]
  exact (Answers.throw _).bind_error

theorem delete_absent (grants : m.failsDelete = false) (h : m.services.find? name = none) :
    Answers (delete name) m (.error (.notInstalled name)) (m.asked .delete) := by
  unfold delete
  refine record_answers.bind (.get ?_)
  rw [if_neg (by exact Bool.eq_false_iff.1 grants),
    if_pos (by rw [Bool.not_eq_true']; exact isInstalled_of_absent h)]
  exact (Answers.throw _).bind_error

theorem delete_found (grants : m.failsDelete = false) (h : m.services.find? name = some s) :
    Answers (delete name) m (.ok ()) { m.asked .delete with services := m.services.erase name } := by
  unfold delete
  refine record_answers.bind (.get ?_)
  rw [if_neg (by exact Bool.eq_false_iff.1 grants),
    if_neg (by rw [Bool.not_eq_true', Bool.not_eq_false]; exact isInstalled_of_find? h)]
  exact .change _

theorem service_absent (h : m.services.find? name = none) : (service now name).run m = (none, m) := by
  unfold service
  rw [StateT.run_bind, show StateT.run get m = Pure.pure (m, m) from rfl, pure_bind]
  dsimp only
  rw [h]
  rfl

theorem service_found (h : m.services.find? name = some s) : (service now name).run m =
    (some (s.refresh now m.stopBehavior), m.withService name (s.refresh now m.stopBehavior)) := by
  unfold service
  rw [StateT.run_bind, show StateT.run get m = Pure.pure (m, m) from rfl, pure_bind]
  dsimp only
  rw [h]
  rfl

/-! ## Processes and log sources -/

theorem terminate_unknown {pid : Nat} (h : List.find? (fun entry => entry.2.hasProcess pid) m.services = none) :
    Answers (terminate pid) m (.error (.processNotFound pid)) m := by
  refine .get ?_
  rw [h]
  exact .throw _

theorem terminate_found {pid : Nat} (h : List.find? (fun entry => entry.2.hasProcess pid) m.services = some (name, s)) :
    Answers (terminate pid) m (.ok ())
      { m.withService name { s with phase := .stopped } with terminated := pid :: m.terminated } := by
  refine .get ?_
  rw [h]
  exact (Answers.change _).bind (.change _)

theorem registerLogSource_refused (h : (m.failsLogRegistration || m.hasLogSource name) = true) :
    Answers (registerLogSource name) m (.error (logSourceExists name)) (m.asked .registerLogSource) := by
  unfold registerLogSource
  refine record_answers.bind (.get ?_)
  rw [if_pos (by exact h)]
  exact (Answers.throw _).bind_error

theorem registerLogSource_granted (h : (m.failsLogRegistration || m.hasLogSource name) = false) :
    Answers (registerLogSource name) m (.ok ())
      { m.asked .registerLogSource with logSources := name :: m.logSources } := by
  unfold registerLogSource
  refine record_answers.bind (.get ?_)
  rw [if_neg (by exact Bool.eq_false_iff.1 h)]
  exact .change _

theorem removeLogSource_refused (h : (m.failsLogRemoval || !m.hasLogSource name) = true) :
    Answers (removeLogSource name) m (.error (logSourceStays name)) (m.asked .removeLogSource) := by
  unfold removeLogSource
  refine record_answers.bind (.get ?_)
  rw [if_pos (by exact h)]
  exact (Answers.throw _).bind_error

theorem removeLogSource_granted (h : (m.failsLogRemoval || !m.hasLogSource name) = false) :
    Answers (removeLogSource name) m (.ok ())
      { m.asked .removeLogSource with logSources := m.logSources.filter (· ≠ name) } := by
  unfold removeLogSource
  refine record_answers.bind (.get ?_)
  rw [if_neg (by exact Bool.eq_false_iff.1 h)]
  exact .change _

/-! ## Dispatching -/

theorem takeScript_answers : Answers takeScript m (.ok m.script) { m.asked .dispatch with script := [] } := by
  unfold takeScript
  exact record_answers.bind (.get ((Answers.change _).bind (.pure _)))

theorem takeFault_answers : Answers takeFault m
    (match m.dispatchFault with
      | some reason => .error (.dispatch reason)
      | none => .ok ())
    { m with dispatchFault := none } := by
  unfold takeFault
  refine .get ((Answers.change _).bind ?_)
  cases m.dispatchFault with
  | none => exact .pure _
  | some reason => exact .throw _

end ServiceControl.Memory
