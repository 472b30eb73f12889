import ServiceControl.Controller
import ServiceControl.Memory.Gateway
import ServiceControl.Proofs.Memory.Asks
import ServiceControl.Proofs.Sight
/-!
# Calls of the memory manager

The gateway of a machine, call by call.  What a machine remembers of its calls has no part in its answers, and is left out
of what is seen of it.
-/
namespace ServiceControl.Memory

open Cell (Returns Leads)

namespace Machine

/-- The machine apart from what it remembers. -/
def present (m : Machine) : Machine := { m with history := [] }

def inSession (m : Machine) : Machine := { m with openSessions := m.openSessions + 1 }

def inEntry (m : Machine) : Machine := { m with openEntries := m.openEntries + 1 }

/-- The service has a new process. -/
def launched (m : Machine) (name : String) (s : Service) : Machine :=
  { m.withService name { s with phase := .running m.nextPid, starts := s.starts + 1 } with nextPid := m.nextPid + 1 }

end Machine

variable {γ α : Type} {cell : Cell γ Machine}

def presentCell (cell : Cell γ Machine) : Cell γ Machine :=
  cell.inside ⟨Machine.present, fun m before => { m with history := before.history }⟩

/-! ## Services at rest -/

/-- Time does nothing to the service. -/
def Service.Rests (s : Service) : Prop := ∀ now behavior, s.refresh now behavior = s

theorem rests_stopped {s : Service} (h : s.phase = .stopped) : s.Rests := by
  intro now behavior
  obtain ⟨spec, recovery, starts, _⟩ := s
  subst h
  cases behavior <;> rfl

theorem rests_running {s : Service} {pid : Nat} (h : s.phase = .running pid) : s.Rests := by
  intro now behavior
  obtain ⟨spec, recovery, starts, _⟩ := s
  subst h
  cases behavior <;> rfl

theorem withService_self {m : Machine} {name : String} {s : Service} (found : m.services.find? name = some s) :
    m.withService name s = m := by
  unfold Machine.withService
  rw [NameMap.put_of_find? found]

/-- What is asked of a service at rest is remembered, and changes nothing else. -/
theorem touched_rests {m : Machine} {name : String} {s : Service} (found : m.services.find? name = some s)
    (rests : s.Rests) (operation : Operation) (now : Nat) : m.touched operation now name s = m.asked operation := by
  unfold Machine.touched
  rw [rests]
  exact withService_self found

theorem touched_resting {m : Machine} {name : String} {s : Service} (found : m.services.find? name = some s)
    (rests : s.Rests) (operation : Operation) (now : Nat) : (m.touched operation now name s).present = m.present := by
  rw [touched_rests found rests]
  rfl

/-! ## Asking in a scene -/

section Asking

variable {b b' : Machine} {now : Nat} {r : Except ServiceError α} (lawful : cell.Lawful)
include lawful

/-- What is done with the whole machine, seen apart from what it remembers. -/
theorem takeFrom_leads {m : Type → Type} [Monad m] [MonadStateOf (Scene γ) m] [Playable γ m] {f : Machine → α × Machine}
    {a : α} (h : ∀ x, x.present = b → (f x).1 = a ∧ (f x).2.present = b') :
    (presentCell cell).Leads (Act.takeFrom cell f : m α) ⟨now, b⟩ (some a) ⟨now, b'⟩ := by
  refine .step ?_
  intro s hs
  obtain ⟨hnow, hb⟩ := Sight.mk.inj hs
  obtain ⟨ha, hb'⟩ := h (cell.get s.world) hb
  refine ⟨ha, ?_⟩
  show Sight.mk s.now (cell.get (cell.set _ _)).present = _
  rw [lawful.get_set, hb', hnow]

theorem update_leads {m : Type → Type} [Monad m] [MonadStateOf (Scene γ) m] [Playable γ m] {f : Machine → Machine}
    (h : ∀ x, x.present = b → (f x).present = b') :
    (presentCell cell).Leads (Act.update cell f : m Unit) ⟨now, b⟩ (some ()) ⟨now, b'⟩ := by
  have htake : (presentCell cell).Leads (Act.takeFrom cell fun x => ((), f x) : m Unit) ⟨now, b⟩ (some ()) ⟨now, b'⟩ :=
    takeFrom_leads lawful fun x hx => ⟨rfl, h x hx⟩
  exact htake

theorem onMachine_leads {f : StateM Machine α} {a : α}
    (h : ∀ m, m.present = b → (f.run m).1 = a ∧ (f.run m).2.present = b') :
    (presentCell cell).Leads (onMachine cell f) ⟨now, b⟩ (some a) ⟨now, b'⟩ :=
  takeFrom_leads lawful h

theorem asking_returns {ask : Ask α} (h : ∀ m, m.present = b → ∃ m', Answers ask m r m' ∧ m'.present = b') :
    (presentCell cell).Returns (asking cell ask) ⟨now, b⟩ r ⟨now, b'⟩ := by
  refine onMachine_leads lawful ?_
  intro m hm
  obtain ⟨m', ha, hm'⟩ := h m hm
  rw [show ask.run.run m = (r, m') from ha]
  exact ⟨rfl, hm'⟩

theorem askingNow_returns {ask : Nat → Ask α}
    (h : ∀ m, m.present = b → ∃ m', Answers (ask now) m r m' ∧ m'.present = b') :
    (presentCell cell).Returns (askingNow cell ask) ⟨now, b⟩ r ⟨now, b'⟩ := by
  unfold askingNow
  exact Returns.now.bind (asking_returns lawful h)

/-- What the machine answers is what the call returns. -/
theorem asking_answers {ask : Ask α} {m m' : Machine} (h : Answers ask m r m') :
    cell.Returns (asking cell ask) ⟨now, m⟩ r ⟨now, m'⟩ := by
  have hl : cell.Leads (onMachine cell ask.run) ⟨now, m⟩ _ _ := Leads.takeFrom lawful ask.run.run
  have answered : ask.run.run m = (r, m') := h
  dsimp only at hl
  rwa [answered] at hl

theorem askingNow_answers {ask : Nat → Ask α} {m m' : Machine} (h : Answers (ask now) m r m') :
    cell.Returns (askingNow cell ask) ⟨now, m⟩ r ⟨now, m'⟩ := by
  unfold askingNow
  exact Returns.now.bind (asking_answers lawful h)

end Asking

/-! ## Calls -/

section Calls

variable (lawful : cell.Lawful) {b : Machine} {now : Nat} {name : String} {s : Service}
include lawful

theorem connect_returns (granted : b.deniesAccess = false) :
    (presentCell cell).Returns (gateway cell).connect ⟨now, b⟩ (.ok ()) ⟨now, b.inSession⟩ := by
  refine asking_returns lawful ?_
  rintro m rfl
  exact ⟨_, connect_granted granted, rfl⟩

theorem closeSession_leads :
    (presentCell cell).Leads ((gateway cell).closeSession ()) ⟨now, b.inSession⟩ (some ()) ⟨now, b⟩ := by
  refine onMachine_leads lawful ?_
  intro m hm
  refine ⟨rfl, ?_⟩
  show { m.present with openSessions := m.present.openSessions - 1 } = b
  rw [hm]
  rfl

theorem openEntry_returns (found : b.services.find? name = some s) :
    (presentCell cell).Returns ((gateway cell).openEntry () name) ⟨now, b⟩ (.ok name) ⟨now, b.inEntry⟩ := by
  refine asking_returns lawful ?_
  rintro m rfl
  exact ⟨_, openEntry_found found, rfl⟩

theorem openEntry_refused (absent : b.services.find? name = none) :
    (presentCell cell).Returns ((gateway cell).openEntry () name) ⟨now, b⟩ (.error (.notInstalled name)) ⟨now, b⟩ := by
  refine asking_returns lawful ?_
  rintro m rfl
  exact ⟨_, openEntry_absent absent, rfl⟩

theorem closeEntry_leads (entry : String) :
    (presentCell cell).Leads ((gateway cell).closeEntry entry) ⟨now, b.inEntry⟩ (some ()) ⟨now, b⟩ := by
  refine onMachine_leads lawful ?_
  intro m hm
  refine ⟨rfl, ?_⟩
  show { m.present with openEntries := m.present.openEntries - 1 } = b
  rw [hm]
  rfl

theorem create_returns {spec : ServiceSpec} (free : b.services.find? spec.name = none) :
    (presentCell cell).Returns ((gateway cell).create () spec) ⟨now, b⟩ (.ok spec.name)
      ⟨now, (b.withService spec.name { spec }).inEntry⟩ := by
  refine asking_returns lawful ?_
  rintro m rfl
  exact ⟨_, create_free free, rfl⟩

theorem query_returns (found : b.services.find? name = some s) :
    (presentCell cell).Returns ((gateway cell).query name) ⟨now, b⟩ (.ok (s.refresh now b.stopBehavior).status)
      ⟨now, b.withService name (s.refresh now b.stopBehavior)⟩ := by
  refine askingNow_returns lawful ?_
  rintro m rfl
  exact ⟨_, query_found found, rfl⟩

/-- A service at rest is left as it is. -/
theorem query_resting (found : b.services.find? name = some s) (rests : s.Rests) :
    (presentCell cell).Returns ((gateway cell).query name) ⟨now, b⟩ (.ok s.status) ⟨now, b⟩ := by
  have h : (presentCell cell).Returns ((gateway cell).query name) ⟨now, b⟩ _ _ := query_returns lawful found
  rwa [rests, withService_self found] at h

theorem start_returns (found : b.services.find? name = some s) (stopped : s.phase = .stopped) :
    (presentCell cell).Returns ((gateway cell).start name) ⟨now, b⟩ (.ok ()) ⟨now, b.launched name s⟩ := by
  refine askingNow_returns lawful ?_
  rintro m rfl
  exact ⟨_, start_stopped found (by rw [rests_stopped stopped]; exact stopped), rfl⟩

theorem start_refused {pid : Nat} (found : b.services.find? name = some s) (running : s.phase = .running pid) :
    (presentCell cell).Returns ((gateway cell).start name) ⟨now, b⟩ (.error alreadyRunning) ⟨now, b⟩ := by
  refine askingNow_returns lawful ?_
  rintro m rfl
  have rests := rests_running running
  exact ⟨_, start_unstopped found (by rw [rests, running]; exact nofun), touched_resting found rests .start now⟩

theorem setRecovery_returns (found : b.services.find? name = some s) (rests : s.Rests) (action : RecoveryAction) :
    (presentCell cell).Returns ((gateway cell).setRecovery name action) ⟨now, b⟩ (.ok ())
      ⟨now, b.withService name { s with recovery := action }⟩ := by
  refine askingNow_returns lawful ?_
  rintro m rfl
  have h : Answers (setRecovery now name action) m _ _ := setRecovery_found (m := m) found action
  rw [rests] at h
  exact ⟨_, h, rfl⟩

theorem delete_returns (grants : b.failsDelete = false) (found : b.services.find? name = some s) :
    (presentCell cell).Returns ((gateway cell).delete name) ⟨now, b⟩ (.ok ())
      ⟨now, { b with services := b.services.erase name }⟩ := by
  refine asking_returns lawful ?_
  rintro m rfl
  exact ⟨_, delete_found grants found, rfl⟩

theorem registerLogSource_returns (grants : b.failsLogRegistration = false) (absent : b.hasLogSource name = false) :
    (presentCell cell).Returns ((gateway cell).registerLogSource name) ⟨now, b⟩ (.ok ())
      ⟨now, { b with logSources := name :: b.logSources }⟩ := by
  refine asking_returns lawful ?_
  rintro m rfl
  exact ⟨_, registerLogSource_granted (by rw [Bool.or_eq_false_iff]; exact ⟨grants, absent⟩), rfl⟩

theorem removeLogSource_returns (grants : b.failsLogRemoval = false) (present : b.hasLogSource name = true) :
    (presentCell cell).Returns ((gateway cell).removeLogSource name) ⟨now, b⟩ (.ok ())
      ⟨now, { b with logSources := b.logSources.filter (· ≠ name) }⟩ := by
  refine asking_returns lawful ?_
  rintro m rfl
  exact ⟨_, removeLogSource_granted (by
    rw [Bool.or_eq_false_iff, Bool.not_eq_false']
    exact ⟨grants, present⟩), rfl⟩

/-! Calls that are declined. -/

/-- Who is denied access has changed nothing, and that he asked for it is remembered. -/
theorem connect_declined {m : Machine} (denies : m.deniesAccess = true) :
    cell.Returns (gateway cell).connect ⟨now, m⟩ (.error .permissionDenied) ⟨now, m.asked .connect⟩ :=
  asking_answers lawful (connect_denied denies)

theorem delete_declined (refuses : b.failsDelete = true) :
    (presentCell cell).Returns ((gateway cell).delete name) ⟨now, b⟩ (.error markedForDeletion) ⟨now, b⟩ := by
  refine asking_returns lawful ?_
  rintro m rfl
  exact ⟨_, delete_refused refuses, rfl⟩

theorem registerLogSource_declined (refuses : (b.failsLogRegistration || b.hasLogSource name) = true) :
    (presentCell cell).Returns ((gateway cell).registerLogSource name) ⟨now, b⟩ (.error (logSourceExists name))
      ⟨now, b⟩ := by
  refine asking_returns lawful ?_
  rintro m rfl
  exact ⟨_, registerLogSource_refused refuses, rfl⟩

theorem removeLogSource_declined (refuses : (b.failsLogRemoval || !b.hasLogSource name) = true) :
    (presentCell cell).Returns ((gateway cell).removeLogSource name) ⟨now, b⟩ (.error (logSourceStays name))
      ⟨now, b⟩ := by
  refine asking_returns lawful ?_
  rintro m rfl
  exact ⟨_, removeLogSource_refused refuses, rfl⟩

omit lawful in
theorem stopTimeout_leads :
    (presentCell cell).Leads (gateway cell).stopTimeout ⟨now, b⟩ (some b.stopTimeout) ⟨now, b⟩ := by
  refine .get ?_
  intro s hs
  obtain ⟨-, hb⟩ := Sight.mk.inj hs
  rw [← hb]
  exact .pure _

end Calls

end ServiceControl.Memory
