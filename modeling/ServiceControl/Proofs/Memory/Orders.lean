import ServiceControl.Proofs.Memory.Stops
/-!
# Orders over the memory manager

What the operations of a controller come to over a machine that refuses nothing that they ask, and the machine after
them.
-/
namespace ServiceControl.Memory

open Cell (Returns Leads)

variable {γ : Type} {c : Controller γ Unit String} {cell : Cell γ Machine} {b : Machine} {s : Service} {now : Nat}

/-- A controller whose services are those of the machine in this place. -/
structure Governs [Background γ] (c : Controller γ Unit String) (cell : Cell γ Machine) : Prop where
  gateway : c.gateway = gateway cell
  terminate : c.terminate = terminator cell
  quiet : cell.Undisturbed

/-- The machine refuses nothing. -/
structure Machine.Willing (m : Machine) : Prop where
  grantsAccess : m.deniesAccess = false
  registers : m.failsLogRegistration = false
  removes : m.failsLogRemoval = false
  deletes : m.failsDelete = false

def Machine.withLogSource (m : Machine) (name : String) : Machine := { m with logSources := name :: m.logSources }

def Machine.withoutService (m : Machine) (name : String) : Machine := { m with services := m.services.erase name }

/-- The machine without the service and its log source. -/
def Machine.removed (m : Machine) (name : String) : Machine :=
  { m.withoutService name with logSources := m.logSources.filter (· ≠ name) }

theorem Machine.deniesAccess_ended (m : Machine) (name : String) (s : Service) (pid : Nat) (outcome : StopOutcome) :
    (m.ended name s pid outcome).deniesAccess = m.deniesAccess := by
  cases outcome <;> rfl

theorem Machine.Willing.ended {m : Machine} (h : m.Willing) (name : String) (s : Service) (pid : Nat)
    (outcome : StopOutcome) : (m.ended name s pid outcome).Willing := by
  cases outcome <;> exact ⟨h.1, h.2, h.3, h.4⟩

theorem Machine.find?_ended (m : Machine) (name : String) (s : Service) (pid : Nat) (outcome : StopOutcome) :
    (m.ended name s pid outcome).services.find? name = some { s with phase := .stopped } := by
  cases outcome <;> exact m.find?_withService name _

/-- A service whose failures are provided for, if the configuration says so. -/
def recovering (c : Controller γ Unit String) (action : RecoveryAction) (s : Service) : Service :=
  if c.config.restartOnFailure then { s with recovery := action } else s

theorem phase_recovering (action : RecoveryAction) (s : Service) : (recovering c action s).phase = s.phase := by
  unfold recovering
  split <;> rfl

theorem spec_recovering (action : RecoveryAction) (s : Service) : (recovering c action s).spec = s.spec := by
  unfold recovering
  split <;> rfl

theorem name_of_resolved {spec : ServiceSpec} (resolved : ServiceSpec.ofConfig c.binary c.config = .ok spec) :
    spec.name = c.name :=
  ServiceSpec.name_ofConfig resolved

/-! ## Providing for failures -/

section Recovering

variable {α : Type} {m : Type → Type} [Monad m] [MonadStateOf (Scene γ) m] [Playable γ m] {action : RecoveryAction}

/-- Failures are provided for before anything else is done with an entry. -/
theorem recovers_first (found : b.services.find? c.name = some s) {x : ExceptT ServiceError m Unit}
    (hx : (presentCell cell).Returns x ⟨now, b⟩ (.ok ()) ⟨now, b.withService c.name { s with recovery := action }⟩)
    {k : ExceptT ServiceError m α} {r : Except ServiceError α} {σ : Sight Machine}
    (hk : (presentCell cell).Returns k ⟨now, b.withService c.name (recovering c action s)⟩ r σ) :
    (presentCell cell).Returns (if c.config.restartOnFailure then (do x; k) else k) ⟨now, b⟩ r σ := by
  unfold recovering at hk
  cases hr : c.config.restartOnFailure with
  | true =>
    rw [hr, if_pos rfl] at hk
    rw [if_pos rfl]
    exact hx.bind hk
  | false =>
    rw [hr, if_neg Bool.false_ne_true, withService_self found] at hk
    rwa [if_neg Bool.false_ne_true]

end Recovering

variable [Background γ] (g : Governs c cell)
include g

/-! ## Sessions and entries -/

section Holding

variable {α : Type} {b' : Machine} {later : Nat} {r : Except ServiceError α}

theorem withSession_returns (granted : b.deniesAccess = false) {use : Unit → Call γ α}
    (hu : (presentCell cell).Returns (use ()) ⟨now, b.inSession⟩ r ⟨later, b'.inSession⟩) :
    (presentCell cell).Returns (c.withSession use) ⟨now, b⟩ r ⟨later, b'⟩ := by
  have hopen : (presentCell cell).Returns (gateway cell).connect ⟨now, b⟩ (.ok ()) ⟨now, b.inSession⟩ :=
    connect_returns g.quiet.toLawful granted
  have hclose : (presentCell cell).Leads ((gateway cell).closeSession ()) ⟨later, b'.inSession⟩ (some ()) ⟨later, b'⟩ :=
    closeSession_leads g.quiet.toLawful
  unfold Controller.withSession
  rw [g.gateway]
  exact Returns.holding hopen hu hclose

/-- What an entry is needed for. -/
theorem holdingEntry_returns (found : b.services.find? c.name = some s) {use : String → Call γ α}
    (hu : (presentCell cell).Returns (use c.name) ⟨now, b.inEntry⟩ r ⟨later, b'.inEntry⟩) :
    (presentCell cell).Returns (holding (c.gateway.openEntry () c.name) c.gateway.closeEntry use) ⟨now, b⟩ r
      ⟨later, b'⟩ := by
  have hopen : (presentCell cell).Returns ((gateway cell).openEntry () c.name) ⟨now, b⟩ (.ok c.name) ⟨now, b.inEntry⟩ :=
    openEntry_returns g.quiet.toLawful found
  have hclose : (presentCell cell).Leads ((gateway cell).closeEntry c.name) ⟨later, b'.inEntry⟩ (some ()) ⟨later, b'⟩ :=
    closeEntry_leads g.quiet.toLawful c.name
  rw [g.gateway]
  exact Returns.holding hopen hu hclose

theorem holdingEntry_refused (absent : b.services.find? c.name = none) {use : String → Call γ α} :
    (presentCell cell).Returns (holding (c.gateway.openEntry () c.name) c.gateway.closeEntry use) ⟨now, b⟩
      (.error (.notInstalled c.name)) ⟨now, b⟩ := by
  rw [g.gateway]
  exact Returns.holding_error (openEntry_refused g.quiet.toLawful absent)

theorem withEntry_returns (granted : b.deniesAccess = false) (found : b.services.find? c.name = some s)
    {use : String → Op γ α}
    (hu : (presentCell cell).Returns (use c.name) ⟨now, b.inSession.inEntry⟩ r ⟨later, b'.inSession.inEntry⟩) :
    (presentCell cell).Returns (c.withEntry use) ⟨now, b⟩ r ⟨later, b'⟩ := by
  have hopen : (presentCell cell).Returns ((gateway cell).openEntry () c.name) ⟨now, b.inSession⟩ (.ok c.name)
      ⟨now, b.inSession.inEntry⟩ :=
    openEntry_returns g.quiet.toLawful found
  have hclose : (presentCell cell).Leads ((gateway cell).closeEntry c.name) ⟨later, b'.inSession.inEntry⟩ (some ())
      ⟨later, b'.inSession⟩ :=
    closeEntry_leads g.quiet.toLawful c.name
  unfold Controller.withEntry
  rw [g.gateway]
  apply Returns.holding
  · exact Returns.call (connect_returns g.quiet.toLawful granted)
  · exact Returns.holding (Returns.call hopen) hu (Leads.act hclose)
  · exact Leads.act (closeSession_leads g.quiet.toLawful)

theorem withEntry_refused (granted : b.deniesAccess = false) (absent : b.services.find? c.name = none)
    {use : String → Op γ α} :
    (presentCell cell).Returns (c.withEntry use) ⟨now, b⟩ (.error (.notInstalled c.name)) ⟨now, b⟩ := by
  have hopen : (presentCell cell).Returns ((gateway cell).openEntry () c.name) ⟨now, b.inSession⟩
      (.error (.notInstalled c.name)) ⟨now, b.inSession⟩ :=
    openEntry_refused g.quiet.toLawful absent
  unfold Controller.withEntry
  rw [g.gateway]
  apply Returns.holding
  · exact Returns.call (connect_returns g.quiet.toLawful granted)
  · exact Returns.holding_error (Returns.call hopen)
  · exact Leads.act (closeSession_leads g.quiet.toLawful)

end Holding

/-! ## Installing -/

section Install

variable {spec : ServiceSpec}

theorem checkAbsent_returns (absent : b.services.find? c.name = none) :
    (presentCell cell).Returns (c.checkAbsent ()) ⟨now, b⟩ (.ok ()) ⟨now, b⟩ := by
  have hopen : (presentCell cell).Returns ((gateway cell).openEntry () c.name) ⟨now, b⟩ (.error (.notInstalled c.name))
      ⟨now, b⟩ :=
    openEntry_refused g.quiet.toLawful absent
  unfold Controller.checkAbsent
  rw [g.gateway]
  exact (Returns.attempt hopen).bind (.pure _)

theorem checkAbsent_refused (found : b.services.find? c.name = some s) :
    (presentCell cell).Returns (c.checkAbsent ()) ⟨now, b⟩ (.error (.alreadyExists c.name)) ⟨now, b⟩ := by
  have hopen : (presentCell cell).Returns ((gateway cell).openEntry () c.name) ⟨now, b⟩ (.ok c.name) ⟨now, b.inEntry⟩ :=
    openEntry_returns g.quiet.toLawful found
  have hclose : (presentCell cell).Leads ((gateway cell).closeEntry c.name) ⟨now, b.inEntry⟩ (some ()) ⟨now, b⟩ :=
    closeEntry_leads g.quiet.toLawful c.name
  unfold Controller.checkAbsent
  rw [g.gateway]
  refine (Returns.attempt hopen).bind ?_
  exact (Returns.lift hclose).bind (.throw _)

/-- What is done with a new entry: it gets its log source, and its failures are provided for. -/
def equip (c : Controller γ Unit String) (entry : String) : Call γ Unit := do
  c.registerLogSource entry
  if c.config.restartOnFailure then
    if let .error e ← attempt (c.gateway.setRecovery entry .restartNow) then
      Act.warn s!"Failed to set restart on failure for {c.name}: {e.message}"

theorem equip_returns (registers : b.failsLogRegistration = false) (found : b.services.find? c.name = some s)
    (rests : s.Rests) (unsourced : b.hasLogSource c.name = false) :
    (presentCell cell).Returns (equip c c.name) ⟨now, b⟩ (.ok ())
      ⟨now, (b.withService c.name (recovering c .restartNow s)).withLogSource c.name⟩ := by
  have hregister : (presentCell cell).Returns (c.registerLogSource c.name) ⟨now, b⟩ (.ok ())
      ⟨now, b.withLogSource c.name⟩ := by
    have hsource : (presentCell cell).Returns ((gateway cell).registerLogSource c.name) ⟨now, b⟩ _ _ :=
      registerLogSource_returns g.quiet.toLawful registers unsourced
    unfold Controller.registerLogSource
    rw [g.gateway]
    exact (Returns.attempt hsource).bind (.pure _)
  unfold equip
  refine hregister.bind ?_
  rw [g.gateway, recovering]
  cases c.config.restartOnFailure with
  | true =>
    have hset : (presentCell cell).Returns ((gateway cell).setRecovery c.name .restartNow)
        ⟨now, b.withLogSource c.name⟩ _ _ :=
      setRecovery_returns (b := b.withLogSource c.name) g.quiet.toLawful found rests .restartNow
    exact (Returns.attempt hset).bind (.pure _)
  | false =>
    rw [if_neg Bool.false_ne_true, if_neg Bool.false_ne_true, withService_self found]
    exact .pure _

theorem creates_returns (resolved : ServiceSpec.ofConfig c.binary c.config = .ok spec)
    (absent : b.services.find? c.name = none) :
    (presentCell cell).Returns (c.gateway.create () spec) ⟨now, b⟩ (.ok c.name)
      ⟨now, (b.withService c.name { spec }).inEntry⟩ := by
  have hname := name_of_resolved resolved
  have h : (presentCell cell).Returns ((gateway cell).create () spec) ⟨now, b⟩ _ _ :=
    create_returns g.quiet.toLawful (by rw [hname]; exact absent)
  rw [g.gateway]
  rwa [hname] at h

/-- An install comes to what is done with the new entry. -/
theorem installs_entered (resolved : ServiceSpec.ofConfig c.binary c.config = .ok spec)
    (granted : b.deniesAccess = false) (absent : b.services.find? c.name = none) {r : Except ServiceError Unit}
    {b' : Machine} (hequip : (presentCell cell).Returns (equip c c.name)
      ⟨now, (b.withService c.name { spec }).inSession.inEntry⟩ r ⟨now, b'.inSession.inEntry⟩) :
    (presentCell cell).Returns c.install ⟨now, b⟩ r ⟨now, b'⟩ := by
  have hcreate : (presentCell cell).Returns (c.gateway.create () spec) ⟨now, b.inSession⟩ (.ok c.name)
      ⟨now, (b.withService c.name { spec }).inSession.inEntry⟩ :=
    creates_returns g resolved absent
  have hclose {b' : Machine} :
      (presentCell cell).Leads (c.gateway.closeEntry c.name) ⟨now, b'.inEntry⟩ (some ()) ⟨now, b'⟩ := by
    rw [g.gateway]
    exact closeEntry_leads g.quiet.toLawful c.name
  have hentry : (presentCell cell).Returns (holding (c.gateway.create () spec) c.gateway.closeEntry (equip c))
      ⟨now, b.inSession⟩ r ⟨now, b'.inSession⟩ :=
    Returns.holding hcreate hequip hclose
  have hcheck : (presentCell cell).Returns (c.checkAbsent ()) ⟨now, b.inSession⟩ _ _ := checkAbsent_returns g absent
  unfold Controller.install
  refine (Returns.log _ _).bind (withSession_returns g granted ?_)
  refine hcheck.bind ?_
  rw [resolved]
  refine (Returns.result _).bind ?_
  cases r with
  | ok _ => exact hentry.bind (Returns.log _ _)
  | error e => exact hentry.bind_error

theorem install_returns (resolved : ServiceSpec.ofConfig c.binary c.config = .ok spec)
    (granted : b.deniesAccess = false) (registers : b.failsLogRegistration = false)
    (absent : b.services.find? c.name = none) (unsourced : b.hasLogSource c.name = false) :
    (presentCell cell).Returns c.install ⟨now, b⟩ (.ok ())
      ⟨now, (b.withService c.name (recovering c .restartNow { spec })).withLogSource c.name⟩ := by
  have hequip : (presentCell cell).Returns (equip c c.name)
      ⟨now, (b.withService c.name { spec }).inSession.inEntry⟩ (.ok ())
      ⟨now, (((b.withService c.name { spec }).withService c.name
        (recovering c .restartNow { spec })).withLogSource c.name).inSession.inEntry⟩ :=
    equip_returns g registers (b.find?_withService _ _) (rests_stopped rfl) unsourced
  rw [Machine.withService_withService] at hequip
  exact installs_entered g resolved granted absent hequip

theorem install_refused (granted : b.deniesAccess = false) (found : b.services.find? c.name = some s) :
    (presentCell cell).Returns c.install ⟨now, b⟩ (.error (.alreadyExists c.name)) ⟨now, b⟩ := by
  have hcheck : (presentCell cell).Returns (c.checkAbsent ()) ⟨now, b.inSession⟩ _ _ := checkAbsent_refused g found
  unfold Controller.install
  exact (Returns.log _ _).bind (withSession_returns g granted hcheck.bind_error)

end Install

/-! ## Starting -/

section Start

omit g in
theorem launched_withService (m : Machine) (name : String) (s s' : Service) :
    (m.withService name s).launched name s' = m.launched name s' := by
  unfold Machine.launched
  rw [Machine.withService_withService]
  rfl

theorem setsRecovery_returns (found : b.services.find? c.name = some s) (rests : s.Rests) (action : RecoveryAction) :
    (presentCell cell).Returns (c.gateway.setRecovery c.name action) ⟨now, b⟩ (.ok ())
      ⟨now, b.withService c.name { s with recovery := action }⟩ := by
  rw [g.gateway]
  exact setRecovery_returns g.quiet.toLawful found rests action

/-- What is done with the entry of a service that is to be started. -/
def startEntry (c : Controller γ Unit String) (entry : String) : Call γ Unit := do
  if c.config.restartOnFailure then c.gateway.setRecovery entry .restartNow
  c.gateway.start entry

/-- Whether it is started or not, its failures are provided for. -/
theorem starts_in_session {r : Except ServiceError Unit} {b' : Machine} (granted : b.deniesAccess = false)
    (found : b.services.find? c.name = some s) (rests : s.Rests)
    (hstart : (presentCell cell).Returns ((gateway cell).start c.name)
      ⟨now, (b.withService c.name (recovering c .restartNow s)).inSession.inEntry⟩ r ⟨now, b'.inSession.inEntry⟩) :
    (presentCell cell).Returns (c.withSession fun session =>
      holding (c.gateway.openEntry session c.name) c.gateway.closeEntry (startEntry c)) ⟨now, b⟩ r ⟨now, b'⟩ := by
  have hset : (presentCell cell).Returns (c.gateway.setRecovery c.name .restartNow) ⟨now, b.inSession.inEntry⟩
      (.ok ()) _ :=
    setsRecovery_returns (b := b.inSession.inEntry) g found rests .restartNow
  have hentry : (presentCell cell).Returns (startEntry c c.name) ⟨now, b.inSession.inEntry⟩ r
      ⟨now, b'.inSession.inEntry⟩ := by
    rw [← g.gateway] at hstart
    exact recovers_first (b := b.inSession.inEntry) found hset hstart
  refine withSession_returns g granted ?_
  exact holdingEntry_returns (b := b.inSession) g found hentry

theorem startOrder_returns (granted : b.deniesAccess = false) (found : b.services.find? c.name = some s)
    (stopped : s.phase = .stopped) :
    (presentCell cell).Returns c.start ⟨now, b⟩ (.ok ()) ⟨now, b.launched c.name (recovering c .restartNow s)⟩ := by
  have phase : (recovering c .restartNow s).phase = .stopped := (phase_recovering _ s).trans stopped
  have hstart : (presentCell cell).Returns ((gateway cell).start c.name)
      ⟨now, (b.withService c.name (recovering c .restartNow s)).inSession.inEntry⟩ (.ok ())
      ⟨now, ((b.withService c.name (recovering c .restartNow s)).launched c.name
        (recovering c .restartNow s)).inSession.inEntry⟩ :=
    start_returns g.quiet.toLawful (b.find?_withService _ _) phase
  rw [launched_withService] at hstart
  have hsession := starts_in_session g granted found (rests_stopped stopped) hstart
  unfold Controller.start
  exact (Returns.log _ _).bind (hsession.bind (Returns.log _ _))

theorem startOrder_absent (granted : b.deniesAccess = false) (absent : b.services.find? c.name = none) :
    (presentCell cell).Returns c.start ⟨now, b⟩ (.error (.notInstalled c.name)) ⟨now, b⟩ := by
  unfold Controller.start
  refine (Returns.log _ _).bind (Returns.bind_error ?_)
  refine withSession_returns g granted ?_
  exact holdingEntry_refused (b := b.inSession) g absent

/-- A running service is not started again. -/
theorem startOrder_running {pid : Nat} (granted : b.deniesAccess = false) (found : b.services.find? c.name = some s)
    (running : s.phase = .running pid) :
    (presentCell cell).Returns c.start ⟨now, b⟩ (.error alreadyRunning)
      ⟨now, b.withService c.name (recovering c .restartNow s)⟩ := by
  have phase : (recovering c .restartNow s).phase = .running pid := (phase_recovering _ s).trans running
  have hstart : (presentCell cell).Returns ((gateway cell).start c.name)
      ⟨now, (b.withService c.name (recovering c .restartNow s)).inSession.inEntry⟩ (.error alreadyRunning)
      ⟨now, (b.withService c.name (recovering c .restartNow s)).inSession.inEntry⟩ :=
    start_refused g.quiet.toLawful (b.find?_withService _ _) phase
  have hsession := starts_in_session g granted found (rests_running running) hstart
  unfold Controller.start
  exact (Returns.log _ _).bind hsession.bind_error

end Start

/-! ## Stopping -/

section Stop

variable {pid : Nat}

omit g in
theorem ended_withService (m : Machine) (name : String) (s s' : Service) (pid : Nat) (outcome : StopOutcome) :
    (m.withService name s).ended name s' pid outcome = m.ended name s' pid outcome := by
  have hstopped : (m.withService name s).stopped name s' = m.stopped name s' := m.withService_withService name s _
  cases outcome with
  | graceful => exact hstopped
  | _ => exact congrArg (fun m : Machine => { m with terminated := pid :: m.terminated }) hstopped

omit g in
theorem ended_held (m : Machine) (name : String) (s : Service) (pid : Nat) (outcome : StopOutcome) :
    m.inSession.inEntry.ended name s pid outcome = (m.ended name s pid outcome).inSession.inEntry := by
  cases outcome <;> rfl

/-- Before a stop nothing is provided for any more. -/
theorem stopEntry_returns (found : b.services.find? c.name = some s) (rests : s.Rests)
    {r : Except ServiceError StopOutcome} {σ : Sight Machine}
    (hw : (presentCell cell).Returns ((target cell c.name).stopAndWait c.tie b.stopTimeout)
      ⟨now, b.withService c.name (recovering c .none s)⟩ r σ) :
    (presentCell cell).Returns (c.stopEntry c.name) ⟨now, b⟩ r σ := by
  have htimeout : (presentCell cell).Leads c.gateway.stopTimeout ⟨now, b.withService c.name (recovering c .none s)⟩
      (some b.stopTimeout) ⟨now, b.withService c.name (recovering c .none s)⟩ := by
    rw [g.gateway]
    exact stopTimeout_leads
  have htarget :
      (⟨c.gateway.control c.name, c.gateway.query c.name, c.terminate⟩ : StopTarget γ) = target cell c.name := by
    rw [g.gateway, g.terminate]
    rfl
  have hset : (presentCell cell).Returns (c.gateway.setRecovery c.name .none) ⟨now, b⟩ (.ok ()) _ :=
    setsRecovery_returns g found rests .none
  unfold Controller.stopEntry
  refine recovers_first found (Returns.call hset) ?_
  refine (Returns.act htimeout).bind ?_
  rw [htarget]
  exact hw

theorem stopEntry_running (now : Nat) (sound : b.ledger.Sound) (found : b.services.find? c.name = some s)
    (running : s.phase = .running pid) :
    let ending := stopEnding c.tie b.stopTimeout b.stopBehavior
    (presentCell cell).Returns (c.stopEntry c.name) ⟨now, b⟩ (.ok ending.1)
      ⟨now + ending.2, b.ended c.name (recovering c .none s) pid ending.1⟩ := by
  have hsound : (b.withService c.name (recovering c .none s)).ledger.Sound :=
    sound.put_kept found (spec_recovering _ s) (congrArg Phase.process? (phase_recovering _ s))
  have found' := b.find?_withService c.name (recovering c .none s)
  have running' : (recovering c .none s).phase = .running pid := (phase_recovering _ s).trans running
  have h := stopAndWait_present g.quiet c.tie b.stopTimeout now hsound found' running'
  dsimp only at h
  rw [ended_withService] at h
  exact stopEntry_returns g found (rests_running running) h

theorem stopEntry_stopped (found : b.services.find? c.name = some s) (stopped : s.phase = .stopped) :
    (presentCell cell).Returns (c.stopEntry c.name) ⟨now, b⟩ (.error notStarted)
      ⟨now, b.withService c.name (recovering c .none s)⟩ := by
  have found' := b.find?_withService c.name (recovering c .none s)
  have stopped' : (recovering c .none s).phase = .stopped := (phase_recovering _ s).trans stopped
  exact stopEntry_returns g found (rests_stopped stopped) (stopAndWait_unstarted g.quiet found' stopped')

theorem stop_absent (granted : b.deniesAccess = false) (absent : b.services.find? c.name = none) :
    (presentCell cell).Returns c.stop ⟨now, b⟩ (.error (.notInstalled c.name)) ⟨now, b⟩ := by
  have hentry : (presentCell cell).Returns (c.withEntry c.stopEntry) ⟨now, b⟩ _ _ := withEntry_refused g granted absent
  unfold Controller.stop
  exact (Returns.log _ _).bind hentry.bind_error

theorem stop_stopped (granted : b.deniesAccess = false) (found : b.services.find? c.name = some s)
    (stopped : s.phase = .stopped) :
    (presentCell cell).Returns c.stop ⟨now, b⟩ (.error notStarted)
      ⟨now, b.withService c.name (recovering c .none s)⟩ := by
  have hentry : (presentCell cell).Returns (c.withEntry c.stopEntry) ⟨now, b⟩ (.error notStarted)
      ⟨now, b.withService c.name (recovering c .none s)⟩ :=
    withEntry_returns g granted found (stopEntry_stopped (b := b.inSession.inEntry) g found stopped)
  unfold Controller.stop
  exact (Returns.log _ _).bind hentry.bind_error

/-- **A running service is stopped**, by force if need be. -/
theorem stop_running (granted : b.deniesAccess = false) (sound : b.ledger.Sound)
    (found : b.services.find? c.name = some s) (running : s.phase = .running pid) :
    let ending := stopEnding c.tie b.stopTimeout b.stopBehavior
    (presentCell cell).Returns c.stop ⟨now, b⟩ (.ok ())
      ⟨now + ending.2, b.ended c.name (recovering c .none s) pid ending.1⟩ := by
  have h := stopEntry_running (b := b.inSession.inEntry) g now sound found running
  dsimp only at h
  rw [ended_held] at h
  have hentry : (presentCell cell).Returns (c.withEntry c.stopEntry) ⟨now, b⟩ _ _ := withEntry_returns g granted found h
  unfold Controller.stop
  exact (Returns.log _ _).bind (hentry.bind (Returns.log _ _))

end Stop

/-! ## Restarting -/

section Restart

variable {pid : Nat}

omit g in
theorem restart_refused {e : ServiceError} {b' : Machine}
    (hs : (presentCell cell).Returns c.stop ⟨now, b⟩ (.error e) ⟨now, b'⟩) :
    (presentCell cell).Returns c.restart ⟨now, b⟩ (.error e) ⟨now, b'⟩ := by
  unfold Controller.restart
  exact hs.bind_error

/-- **A running service gets a new process.** -/
theorem restart_running (granted : b.deniesAccess = false) (sound : b.ledger.Sound)
    (found : b.services.find? c.name = some s) (running : s.phase = .running pid) :
    let ending := stopEnding c.tie b.stopTimeout b.stopBehavior
    let m := b.ended c.name (recovering c .none s) pid ending.1
    (presentCell cell).Returns c.restart ⟨now, b⟩ (.ok ()) ⟨now + ending.2, m.launched c.name
      (recovering c .restartNow { recovering c .none s with phase := .stopped })⟩ := by
  intro ending m
  have hstop : (presentCell cell).Returns c.stop ⟨now, b⟩ (.ok ()) ⟨now + ending.2, m⟩ :=
    stop_running g granted sound found running
  have granted' : m.deniesAccess = false := (b.deniesAccess_ended _ _ _ _).trans granted
  have hstart : (presentCell cell).Returns c.start ⟨now + ending.2, m⟩ (.ok ()) _ :=
    startOrder_returns g granted' (Machine.find?_ended _ _ _ _ _) rfl
  unfold Controller.restart
  exact hstop.bind (Returns.call hstart)

end Restart

/-! ## Uninstalling -/

section Uninstall

variable {later : Nat} {m : Machine} {s' : Service}

/-- What is done with the entry of a service that is uninstalled: however the stop goes, it is deleted after it. -/
def strikeEntry (c : Controller γ Unit String) (entry : String) : Op γ Unit := do
  if let .error e ← attempt (c.stopEntry entry) then
    Act.debug s!"Stop before uninstall of {c.name} failed: {e.message}"
  c.gateway.delete entry

theorem strikes_in_session (granted : b.deniesAccess = false) (found : b.services.find? c.name = some s)
    {r : Except ServiceError StopOutcome} {r' : Except ServiceError Unit} {m' : Machine}
    (hs : (presentCell cell).Returns (c.stopEntry c.name) ⟨now, b.inSession.inEntry⟩ r ⟨later, m.inSession.inEntry⟩)
    (hdelete : (presentCell cell).Returns ((gateway cell).delete c.name) ⟨later, m.inSession.inEntry⟩ r'
      ⟨later, m'.inSession.inEntry⟩) :
    (presentCell cell).Returns (c.withEntry (strikeEntry c)) ⟨now, b⟩ r' ⟨later, m'⟩ := by
  rw [← g.gateway] at hdelete
  have hattempt := Returns.attempt hs
  refine withEntry_returns g granted found ?_
  unfold strikeEntry
  cases r with
  | ok outcome => exact hattempt.bind (Returns.call hdelete)
  | error e => exact hattempt.bind ((Returns.log _ _).bind (Returns.call hdelete))

/-- The log source is removed after the entry. -/
theorem uninstall_returns (granted : b.deniesAccess = false) (found : b.services.find? c.name = some s)
    {r : Except ServiceError StopOutcome}
    (hs : (presentCell cell).Returns (c.stopEntry c.name) ⟨now, b.inSession.inEntry⟩ r ⟨later, m.inSession.inEntry⟩)
    (deletes : m.failsDelete = false) (removes : m.failsLogRemoval = false)
    (found' : m.services.find? c.name = some s') (sourced : m.hasLogSource c.name = true) :
    (presentCell cell).Returns c.uninstall ⟨now, b⟩ (.ok ()) ⟨later, m.removed c.name⟩ := by
  have hstrike : (presentCell cell).Returns (c.withEntry (strikeEntry c)) ⟨now, b⟩ (.ok ())
      ⟨later, m.withoutService c.name⟩ :=
    strikes_in_session g granted found hs (delete_returns g.quiet.toLawful deletes found')
  have hremove : (presentCell cell).Returns (c.gateway.removeLogSource c.name) ⟨later, m.withoutService c.name⟩
      (.ok ()) ⟨later, m.removed c.name⟩ := by
    rw [g.gateway]
    exact removeLogSource_returns g.quiet.toLawful removes sourced
  have hsource := Returns.attempt (Returns.call hremove)
  unfold Controller.uninstall
  exact (Returns.log _ _).bind (hstrike.bind (hsource.bind (Returns.log _ _)))

theorem uninstall_absent (granted : b.deniesAccess = false) (absent : b.services.find? c.name = none) :
    (presentCell cell).Returns c.uninstall ⟨now, b⟩ (.error (.notInstalled c.name)) ⟨now, b⟩ := by
  unfold Controller.uninstall
  exact (Returns.log _ _).bind (withEntry_refused g granted absent).bind_error

end Uninstall

/-! ## Telling the state -/

/-- The answer to a query in a session, as it is told. -/
def told : Except ServiceError ServiceStatus → String
  | .ok status => status.state.label
  | .error e => e.message

theorem status_leads (granted : b.deniesAccess = false) {r : Except ServiceError ServiceStatus}
    (hfound : (presentCell cell).Returns (holding (c.gateway.openEntry () c.name) c.gateway.closeEntry c.gateway.query)
      ⟨now, b.inSession⟩ r ⟨now, b.inSession⟩) :
    (presentCell cell).Leads c.status ⟨now, b⟩ (some (told r)) ⟨now, b⟩ := by
  have hopen : (presentCell cell).Returns (gateway cell).connect ⟨now, b⟩ (.ok ()) ⟨now, b.inSession⟩ :=
    connect_returns g.quiet.toLawful granted
  have hclose : (presentCell cell).Leads ((gateway cell).closeSession ()) ⟨now, b.inSession⟩ (some ()) ⟨now, b⟩ :=
    closeSession_leads g.quiet.toLawful
  rw [g.gateway] at hfound
  unfold Controller.status
  rw [g.gateway]
  unfold Gateway.status
  refine Leads.bind hopen (Leads.bind hfound ?_)
  cases r with
  | ok status => exact (Leads.pure _).bind (hclose.bind (.pure _))
  | error e => exact (Leads.log _ _).bind ((Leads.pure _).bind (hclose.bind (.pure _)))

theorem status_absent (granted : b.deniesAccess = false) (absent : b.services.find? c.name = none) :
    (presentCell cell).Leads c.status ⟨now, b⟩ (some (ServiceError.notInstalled c.name).message) ⟨now, b⟩ := by
  refine status_leads g granted (r := .error (.notInstalled c.name)) ?_
  exact holdingEntry_refused (b := b.inSession) g absent

theorem status_resting (granted : b.deniesAccess = false) (found : b.services.find? c.name = some s) (rests : s.Rests) :
    (presentCell cell).Leads c.status ⟨now, b⟩ (some s.status.state.label) ⟨now, b⟩ := by
  have hquery : (presentCell cell).Returns (c.gateway.query c.name) ⟨now, b.inSession.inEntry⟩ (.ok s.status)
      ⟨now, b.inSession.inEntry⟩ := by
    rw [g.gateway]
    exact query_resting (b := b.inSession.inEntry) g.quiet.toLawful found rests
  refine status_leads g granted (r := .ok s.status) ?_
  exact holdingEntry_returns (b := b.inSession) g found hquery

end ServiceControl.Memory
