import ServiceControl.Proofs.Memory.Oversight
/-!
# Orders that are refused

What an order to a controller comes to over a machine that may refuse any part of it, and the machine after it.  Main
statements: who is denied access has asked for a session and no more (`carryOut_denied`), and an order that is let in fares
in one of a few ways (`carryOut_fares`).
-/
namespace ServiceControl.Memory

open Cell (Returns Leads)
open Scenario (Order)

variable {γ : Type}

/-! ## Ends of orders -/

/-- The service has stopped, its failures are no longer provided for, and these processes were ended by force so far. -/
def Machine.halted (m : Machine) (c : Controller γ Unit String) (s : Service) (terminated : List Nat) : Machine :=
  { m.withService c.name { recovering c .none s with phase := .stopped } with terminated }

/-- No process was ended by force but that of the service. -/
def Spends (m : Machine) (s : Service) (terminated : List Nat) : Prop :=
  terminated = m.terminated ∨ ∃ pid, s.phase = .running pid ∧ terminated = pid :: m.terminated

/-- The orders that need an entry. -/
def needsEntry : Order → Bool
  | .uninstall | .start | .stop | .restart => true
  | _ => false

/-- **How an order fails** that was let in: the error that it comes to, and the machine after it. -/
inductive Miscarries (c : Controller γ Unit String) (m : Machine) : Order → ServiceError → Machine → Prop
  | unfound {order : Order} (needs : needsEntry order = true) (absent : m.services.find? c.name = none) :
      Miscarries c m order (.notInstalled c.name) m
  | taken {s : Service} (found : m.services.find? c.name = some s) : Miscarries c m .install (.alreadyExists c.name) m
  | unresolved (absent : m.services.find? c.name = none) {reason : String}
      (unresolved : ServiceSpec.ofConfig c.binary c.config =
        .error (.manager s!"failed to resolve executable path: {reason}")) :
      Miscarries c m .install (.manager s!"failed to resolve executable path: {reason}") m
  /-- The new entry was deleted again. -/
  | rolledBack (absent : m.services.find? c.name = none) (reason : String) :
      Miscarries c m .install (.logSourceRegistration c.name reason) m
  /-- The new entry is left behind, without a log source. -/
  | stuck (absent : m.services.find? c.name = none) {spec : ServiceSpec}
      (resolved : ServiceSpec.ofConfig c.binary c.config = .ok spec) (reason rollback : String) :
      Miscarries c m .install (.rollbackFailed c.name reason rollback)
        (m.withService c.name { spec, recovery := .none, starts := 0, phase := .stopped })
  | running {s : Service} {pid : Nat} (found : m.services.find? c.name = some s) (running : s.phase = .running pid) :
      Miscarries c m .start alreadyRunning (m.withService c.name (recovering c .restartNow s))
  | unstarted {order : Order} (stops : order = .stop ∨ order = .restart) {s : Service}
      (found : m.services.find? c.name = some s) (stopped : s.phase = .stopped) :
      Miscarries c m order notStarted (m.withService c.name (recovering c .none s))
  /-- The service has stopped, with its entry and its log source in their places. -/
  | undeleted {s : Service} {terminated : List Nat} (found : m.services.find? c.name = some s)
      (spends : Spends m s terminated) : Miscarries c m .uninstall markedForDeletion (m.halted c s terminated)
  /-- The entry is gone and the log sources are as they were. -/
  | unremoved {s : Service} {terminated : List Nat} (found : m.services.find? c.name = some s)
      (spends : Spends m s terminated) (reason : String) :
      Miscarries c m .uninstall (.logSourceRemoval c.name reason) { m.withoutService c.name with terminated }

/-- **How an order fares** that was let in: what it comes to, and the machine after it. -/
inductive Fares (c : Controller γ Unit String) (m : Machine) : Order → Except ServiceError Unit → Machine → Prop
  | failed {order : Order} {e : ServiceError} {m' : Machine} (miscarries : Miscarries c m order e m') :
      Fares c m order (.error e) m'
  | installed (absent : m.services.find? c.name = none) {spec : ServiceSpec}
      (resolved : ServiceSpec.ofConfig c.binary c.config = .ok spec) :
      Fares c m .install (.ok ()) ((m.withService c.name (recovering c .restartNow { spec })).withLogSource c.name)
  | started {s : Service} (found : m.services.find? c.name = some s) (stopped : s.phase = .stopped) :
      Fares c m .start (.ok ()) (m.launched c.name (recovering c .restartNow s))
  | stopped {s : Service} {terminated : List Nat} (found : m.services.find? c.name = some s)
      (spends : Spends m s terminated) : Fares c m .stop (.ok ()) (m.halted c s terminated)
  | restarted {s : Service} {terminated : List Nat} (found : m.services.find? c.name = some s)
      (spends : Spends m s terminated) : Fares c m .restart (.ok ())
        ((m.halted c s terminated).launched c.name
          (recovering c .restartNow { recovering c .none s with phase := .stopped }))
  | uninstalled {s : Service} {terminated : List Nat} (found : m.services.find? c.name = some s)
      (spends : Spends m s terminated) : Fares c m .uninstall (.ok ()) { m.removed c.name with terminated }

/-- A service at rest has stopped or is running. -/
theorem phase_of_rests {s : Service} (rests : s.Rests) : s.phase = .stopped ∨ ∃ pid, s.phase = .running pid := by
  cases hp : s.phase with
  | stopped => exact .inl rfl
  | running pid => exact .inr ⟨pid, rfl⟩
  | stopping pid since =>
    -- one that was asked to stop would have stopped by then
    have h : s.phase.refresh since (.after 0) = s.phase := congrArg Service.phase (rests since (.after 0))
    rw [hp, Phase.refresh, Nat.add_zero, if_pos (Nat.le_refl since)] at h
    cases h

section Halting

variable (c : Controller γ Unit String) (m : Machine) {s : Service}

theorem halted_stopped (stopped : s.phase = .stopped) :
    m.withService c.name (recovering c .none s) = m.halted c s m.terminated := by
  have phase : (recovering c .none s).phase = .stopped := (phase_recovering _ s).trans stopped
  have same : { recovering c .none s with phase := .stopped } = recovering c .none s := by rw [← phase]
  unfold Machine.halted
  rw [same]
  rfl

theorem halted_ended {pid : Nat} (running : s.phase = .running pid) (outcome : StopOutcome) :
    ∃ terminated, Spends m s terminated ∧
      m.ended c.name (recovering c .none s) pid outcome = m.halted c s terminated := by
  cases outcome with
  | graceful => exact ⟨m.terminated, .inl rfl, rfl⟩
  | _ => exact ⟨pid :: m.terminated, .inr ⟨pid, running, rfl⟩, rfl⟩

theorem find?_halted (s : Service) (terminated : List Nat) : (m.halted c s terminated).services.find? c.name =
    some { recovering c .none s with phase := .stopped } :=
  m.find?_withService c.name _

/-- Once its entry is deleted it does not matter how the service was left. -/
theorem withoutService_halted (s : Service) (terminated : List Nat) :
    (m.halted c s terminated).withoutService c.name = { m.withoutService c.name with terminated } := by
  unfold Machine.withoutService Machine.halted Machine.withService
  rw [NameMap.erase_put]

end Halting

variable [Background γ] {c : Controller γ Unit String} {cell : Cell γ Machine}

/-! ## Denials -/

section Denials

variable {m : Machine} {now : Nat} (g : Governs c cell) (denies : m.deniesAccess = true)
include g denies

theorem connects_denied :
    cell.Returns c.gateway.connect ⟨now, m⟩ (.error .permissionDenied) ⟨now, m.asked .connect⟩ := by
  rw [g.gateway]
  exact connect_declined g.quiet.toLawful denies

theorem withSession_denied {α : Type} (use : Unit → Call γ α) :
    cell.Returns (c.withSession use) ⟨now, m⟩ (.error .permissionDenied) ⟨now, m.asked .connect⟩ := by
  unfold Controller.withSession
  exact Returns.holding_error (connects_denied g denies)

theorem withEntry_denied {α : Type} (use : String → Op γ α) :
    cell.Returns (c.withEntry use) ⟨now, m⟩ (.error .permissionDenied) ⟨now, m.asked .connect⟩ := by
  unfold Controller.withEntry
  exact Returns.holding_error (Returns.call (connects_denied g denies))

theorem stop_denied : cell.Returns c.stop ⟨now, m⟩ (.error .permissionDenied) ⟨now, m.asked .connect⟩ := by
  unfold Controller.stop
  exact (Returns.log _ _).bind (withEntry_denied g denies _).bind_error

/-- **Who is denied access has asked for a session**, and nothing else. -/
theorem carryOut_denied {order : Order} (asks : order = .install ∨ needsEntry order = true) :
    cell.Returns (carryOut c order) ⟨now, m⟩ (.error .permissionDenied) ⟨now, m.asked .connect⟩ := by
  cases order with
  | install =>
    have h : cell.Returns c.install ⟨now, m⟩ (.error .permissionDenied) ⟨now, m.asked .connect⟩ := by
      unfold Controller.install
      exact (Returns.log _ _).bind (withSession_denied g denies _)
    exact Returns.call h
  | uninstall =>
    show cell.Returns c.uninstall _ _ _
    unfold Controller.uninstall
    exact (Returns.log _ _).bind (withEntry_denied g denies _).bind_error
  | start =>
    have h : cell.Returns c.start ⟨now, m⟩ (.error .permissionDenied) ⟨now, m.asked .connect⟩ := by
      unfold Controller.start
      exact (Returns.log _ _).bind (withSession_denied g denies _).bind_error
    exact Returns.call h
  | stop => exact stop_denied g denies
  | restart =>
    show cell.Returns c.restart _ _ _
    unfold Controller.restart
    exact (stop_denied g denies).bind_error
  | run => exact absurd asks (by decide)
  | status => exact absurd asks (by decide)

end Denials

variable {b : Machine} {s : Service} {now : Nat} (g : Governs c cell) (granted : b.deniesAccess = false)

/-! ## Installs -/

section Install

variable {spec : ServiceSpec}
include g

/-- A new entry whose log source is refused is deleted again. -/
theorem registers_rolledBack (refuses : (b.failsLogRegistration || b.hasLogSource c.name) = true)
    (deletes : b.failsDelete = false) (found : b.services.find? c.name = some s) :
    (presentCell cell).Returns (c.registerLogSource c.name) ⟨now, b⟩
      (.error (.logSourceRegistration c.name (logSourceExists c.name).message)) ⟨now, b.withoutService c.name⟩ := by
  have hsource : (presentCell cell).Returns ((gateway cell).registerLogSource c.name) ⟨now, b⟩ _ _ :=
    registerLogSource_declined g.quiet.toLawful refuses
  have hdelete : (presentCell cell).Returns ((gateway cell).delete c.name) ⟨now, b⟩ _ _ :=
    delete_returns g.quiet.toLawful deletes found
  unfold Controller.registerLogSource
  rw [g.gateway]
  exact hsource.attempt.bind ((Returns.log _ _).bind (hdelete.attempt.bind (.throw _)))

/-- If it cannot be deleted, it is left behind. -/
theorem registers_stuck (refuses : (b.failsLogRegistration || b.hasLogSource c.name) = true)
    (keeps : b.failsDelete = true) :
    (presentCell cell).Returns (c.registerLogSource c.name) ⟨now, b⟩
      (.error (.rollbackFailed c.name (logSourceExists c.name).message markedForDeletion.message)) ⟨now, b⟩ := by
  have hsource : (presentCell cell).Returns ((gateway cell).registerLogSource c.name) ⟨now, b⟩ _ _ :=
    registerLogSource_declined g.quiet.toLawful refuses
  have hdelete : (presentCell cell).Returns ((gateway cell).delete c.name) ⟨now, b⟩ _ _ :=
    delete_declined g.quiet.toLawful keeps
  unfold Controller.registerLogSource
  rw [g.gateway]
  exact hsource.attempt.bind ((Returns.log _ _).bind (hdelete.attempt.bind (.throw _)))

include granted

theorem install_unresolved (absent : b.services.find? c.name = none) {e : ServiceError}
    (unresolved : ServiceSpec.ofConfig c.binary c.config = .error e) :
    (presentCell cell).Returns c.install ⟨now, b⟩ (.error e) ⟨now, b⟩ := by
  have hcheck : (presentCell cell).Returns (c.checkAbsent ()) ⟨now, b.inSession⟩ _ _ := checkAbsent_returns g absent
  unfold Controller.install
  refine (Returns.log _ _).bind (withSession_returns g granted (hcheck.bind ?_))
  rw [unresolved]
  exact (Returns.result _).bind_error

theorem install_rolledBack (resolved : ServiceSpec.ofConfig c.binary c.config = .ok spec)
    (absent : b.services.find? c.name = none) (refuses : (b.failsLogRegistration || b.hasLogSource c.name) = true)
    (deletes : b.failsDelete = false) :
    (presentCell cell).Returns c.install ⟨now, b⟩
      (.error (.logSourceRegistration c.name (logSourceExists c.name).message)) ⟨now, b⟩ := by
  have hregister : (presentCell cell).Returns (c.registerLogSource c.name)
      ⟨now, (b.withService c.name { spec }).inSession.inEntry⟩ _
      ⟨now, ((b.withService c.name { spec }).withoutService c.name).inSession.inEntry⟩ :=
    registers_rolledBack (b := (b.withService c.name { spec }).inSession.inEntry) g refuses deletes
      (b.find?_withService _ _)
  have same : (b.withService c.name { spec }).withoutService c.name = b := by
    unfold Machine.withoutService Machine.withService
    rw [NameMap.erase_put, NameMap.erase_of_absent absent]
  rw [same] at hregister
  exact installs_entered g resolved granted absent hregister.bind_error

theorem install_stuck (resolved : ServiceSpec.ofConfig c.binary c.config = .ok spec)
    (absent : b.services.find? c.name = none) (refuses : (b.failsLogRegistration || b.hasLogSource c.name) = true)
    (keeps : b.failsDelete = true) :
    (presentCell cell).Returns c.install ⟨now, b⟩
      (.error (.rollbackFailed c.name (logSourceExists c.name).message markedForDeletion.message))
      ⟨now, b.withService c.name { spec }⟩ := by
  have hregister : (presentCell cell).Returns (c.registerLogSource c.name)
      ⟨now, (b.withService c.name { spec }).inSession.inEntry⟩ _ _ :=
    registers_stuck g refuses keeps
  exact installs_entered g resolved granted absent hregister.bind_error

theorem install_fares (now : Nat) :
    ∃ r b', (presentCell cell).Returns c.install ⟨now, b⟩ r ⟨now, b'⟩ ∧ Fares c b .install r b' := by
  cases found : b.services.find? c.name with
  | some s => exact ⟨_, _, install_refused g granted found, .failed (.taken found)⟩
  | none =>
    cases resolved : ServiceSpec.ofConfig c.binary c.config with
    | error e =>
      have h : (presentCell cell).Returns c.install ⟨now, b⟩ _ _ := install_unresolved g granted found resolved
      obtain ⟨reason, rfl⟩ := ServiceSpec.error_ofConfig resolved
      exact ⟨_, _, h, .failed (.unresolved found resolved)⟩
    | ok spec =>
      cases refuses : b.failsLogRegistration || b.hasLogSource c.name with
      | false =>
        obtain ⟨registers, unsourced⟩ := Bool.or_eq_false_iff.1 refuses
        exact ⟨_, _, install_returns g resolved granted registers found unsourced, .installed found resolved⟩
      | true =>
        cases deletes : b.failsDelete with
        | false =>
          have h : (presentCell cell).Returns c.install ⟨now, b⟩ _ _ :=
            install_rolledBack g granted resolved found refuses deletes
          exact ⟨_, _, h, .failed (.rolledBack found _)⟩
        | true =>
          have h : (presentCell cell).Returns c.install ⟨now, b⟩ _ _ :=
            install_stuck g granted resolved found refuses deletes
          exact ⟨_, _, h, .failed (.stuck found resolved _ _)⟩

end Install

include g granted

/-! ## Starts -/

theorem start_fares (found : b.services.find? c.name = some s) (rests : s.Rests) (now : Nat) :
    ∃ r b', (presentCell cell).Returns c.start ⟨now, b⟩ r ⟨now, b'⟩ ∧ Fares c b .start r b' := by
  rcases phase_of_rests rests with stopped | ⟨pid, running⟩
  · exact ⟨_, _, startOrder_returns g granted found stopped, .started found stopped⟩
  · exact ⟨_, _, startOrder_running g granted found running, .failed (.running found running)⟩

/-! ## Stops -/

section Stop

variable (sound : b.ledger.Sound) (found : b.services.find? c.name = some s) (rests : s.Rests)
include sound found rests

theorem stop_fares (now : Nat) : ∃ r later b',
    (presentCell cell).Returns c.stop ⟨now, b⟩ r ⟨later, b'⟩ ∧ Fares c b .stop r b' := by
  rcases phase_of_rests rests with stopped | ⟨pid, running⟩
  · exact ⟨_, now, _, stop_stopped g granted found stopped, .failed (.unstarted (.inl rfl) found stopped)⟩
  · have h : (presentCell cell).Returns c.stop ⟨now, b⟩ _ _ := stop_running g granted sound found running
    obtain ⟨terminated, spends, ended⟩ := halted_ended c b running (stopEnding c.tie b.stopTimeout b.stopBehavior).1
    rw [ended] at h
    exact ⟨_, _, _, h, .stopped found spends⟩

theorem restart_fares (now : Nat) : ∃ r later b',
    (presentCell cell).Returns c.restart ⟨now, b⟩ r ⟨later, b'⟩ ∧ Fares c b .restart r b' := by
  rcases phase_of_rests rests with stopped | ⟨pid, running⟩
  · have h : (presentCell cell).Returns c.stop ⟨now, b⟩ _ _ := stop_stopped g granted found stopped
    exact ⟨_, now, _, restart_refused h, .failed (.unstarted (.inr rfl) found stopped)⟩
  · have h : (presentCell cell).Returns c.restart ⟨now, b⟩ _ _ := restart_running g granted sound found running
    obtain ⟨terminated, spends, ended⟩ := halted_ended c b running (stopEnding c.tie b.stopTimeout b.stopBehavior).1
    rw [ended] at h
    exact ⟨_, _, _, h, .restarted found spends⟩

/-! ## Uninstalls -/

omit granted in
/-- However the stop of an entry goes, its service has stopped then. -/
theorem stopEntry_halts (now : Nat) : ∃ r later terminated, Spends b s terminated ∧
    (presentCell cell).Returns (c.stopEntry c.name) ⟨now, b.inSession.inEntry⟩ r
      ⟨later, (b.halted c s terminated).inSession.inEntry⟩ := by
  rcases phase_of_rests rests with stopped | ⟨pid, running⟩
  · have h : (presentCell cell).Returns (c.stopEntry c.name) ⟨now, b.inSession.inEntry⟩ _ _ :=
      stopEntry_stopped g found stopped
    rw [halted_stopped c _ stopped] at h
    exact ⟨_, now, b.terminated, .inl rfl, h⟩
  · have h := stopEntry_running (b := b.inSession.inEntry) g now sound found running
    obtain ⟨terminated, spends, ended⟩ := halted_ended c b running (stopEnding c.tie b.stopTimeout b.stopBehavior).1
    dsimp only at h
    rw [ended_held] at h
    exact ⟨_, _, terminated, spends, ended ▸ h⟩

theorem uninstall_fares (now : Nat) : ∃ r later b',
    (presentCell cell).Returns c.uninstall ⟨now, b⟩ r ⟨later, b'⟩ ∧ Fares c b .uninstall r b' := by
  obtain ⟨r, later, terminated, spends, hs⟩ := stopEntry_halts g sound found rests now
  have found' := find?_halted c b s terminated
  cases deletes : b.failsDelete with
  | true =>
    have hstrike : (presentCell cell).Returns (c.withEntry (strikeEntry c)) ⟨now, b⟩ _ _ :=
      strikes_in_session g granted found hs (delete_declined g.quiet.toLawful deletes)
    refine ⟨_, later, _, ?_, .failed (.undeleted found spends)⟩
    unfold Controller.uninstall
    exact (Returns.log _ _).bind hstrike.bind_error
  | false =>
    cases refuses : b.failsLogRemoval || !b.hasLogSource c.name with
    | false =>
      obtain ⟨removes, sourced⟩ := Bool.or_eq_false_iff.1 refuses
      have hu := uninstall_returns g granted found hs deletes removes found' ((Bool.not_eq_false' _).mp sourced)
      unfold Machine.removed at hu
      rw [withoutService_halted] at hu
      exact ⟨_, later, _, hu, .uninstalled found spends⟩
    | true =>
      have hstrike : (presentCell cell).Returns (c.withEntry (strikeEntry c)) ⟨now, b⟩ (.ok ())
          ⟨later, (b.halted c s terminated).withoutService c.name⟩ :=
        strikes_in_session g granted found hs (delete_returns g.quiet.toLawful deletes found')
      have hremove : (presentCell cell).Returns (c.gateway.removeLogSource c.name)
          ⟨later, (b.halted c s terminated).withoutService c.name⟩ (.error (logSourceStays c.name))
          ⟨later, (b.halted c s terminated).withoutService c.name⟩ := by
        rw [g.gateway]
        exact removeLogSource_declined g.quiet.toLawful refuses
      have hsource := Returns.attempt (Returns.call hremove)
      rw [withoutService_halted] at hstrike hsource
      refine ⟨_, later, _, ?_, .failed (.unremoved found spends (logSourceStays c.name).message)⟩
      unfold Controller.uninstall
      exact (Returns.log _ _).bind (hstrike.bind (hsource.bind (.throw _)))

end Stop

/-! ## Orders -/

theorem unfound_returns {order : Order} (needs : needsEntry order = true) (absent : b.services.find? c.name = none) :
    (presentCell cell).Returns (carryOut c order) ⟨now, b⟩ (.error (.notInstalled c.name)) ⟨now, b⟩ := by
  cases order with
  | uninstall => exact uninstall_absent g granted absent
  | start => exact Returns.call (startOrder_absent g granted absent)
  | stop => exact stop_absent g granted absent
  | restart => exact restart_refused (stop_absent g granted absent)
  | install | run | status => cases needs

/-- **How orders fare** over a machine that grants access and whose processes are in order, and where the service is at
rest. -/
theorem carryOut_fares (sound : b.ledger.Sound)
    (rests : ∀ s, b.services.find? c.name = some s → s.Rests) {order : Order}
    (asks : order = .install ∨ needsEntry order = true) (now : Nat) : ∃ r later b',
      (presentCell cell).Returns (carryOut c order) ⟨now, b⟩ r ⟨later, b'⟩ ∧ Fares c b order r b' := by
  rcases asks with rfl | needs
  · obtain ⟨r, b', h, fares⟩ := install_fares g granted now
    exact ⟨r, now, b', Returns.call h, fares⟩
  · cases found : b.services.find? c.name with
    | none => exact ⟨_, now, b, unfound_returns g granted needs found, .failed (.unfound needs found)⟩
    | some s =>
      have rests := rests s found
      cases order with
      | uninstall => exact uninstall_fares g granted sound found rests now
      | start =>
        obtain ⟨r, b', h, fares⟩ := start_fares g granted found rests now
        exact ⟨r, now, b', Returns.call h, fares⟩
      | stop => exact stop_fares g granted sound found rests now
      | restart => exact restart_fares g granted sound found rests now
      | install | run | status => cases needs

end ServiceControl.Memory
