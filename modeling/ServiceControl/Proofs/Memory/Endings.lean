import Mathlib.Algebra.Order.Floor.Div
import Mathlib.GroupTheory.GroupAction.Ring
import ServiceControl.Proofs.Memory.Orders
import ServiceControl.Proofs.Stages
/-!
# How stops end over the memory manager

A service that is stopped by its controller, or by whoever has its entry: what becomes of it, when that is known, and how
often the manager was asked before.  Main statement: the ending is fixed by what the process does when it is asked to stop
and by the time it is granted, and a process that stops within that time is not ended by force (`stops_end`).
-/
namespace ServiceControl.Memory

open Cell (Returns Leads)
open StopTarget (interval grace looks Served)

/-! ## Endings -/

/-- How often a machine remembers that it was asked for the state of a service. -/
def Machine.queries (m : Machine) : Nat := m.operations.count .query

/-- **How a stop ends** that was asked of this machine for a service with this process: with this outcome after this time,
and with that machine.  A process that takes the request is found to have stopped by a look at it, and there is one at
every hundred milliseconds. -/
structure Ending (tie : Tie) (timeout : Nat) (m : Machine) (name : String) (pid : Nat) (outcome : StopOutcome)
    (elapsed : Nat) (m' : Machine) : Prop where
  rejecting : m.stopBehavior = .reject → outcome = .rejected ∧ elapsed = 100
  hanging : m.stopBehavior = .never → outcome = .terminated ∧ elapsed = timeout + 200
  inTime : ∀ delay, m.stopBehavior = .after delay → 100 * (delay ⌈/⌉ 100) < timeout + 200 →
    outcome = .graceful ∧ elapsed = 100 * (delay ⌈/⌉ 100)
  late : ∀ delay, m.stopBehavior = .after delay → timeout + 200 < 100 * (delay ⌈/⌉ 100) →
    outcome = .terminated ∧ elapsed = timeout + 200
  /-- A look that falls on the deadline is made before it or not at all. -/
  tied : ∀ delay, m.stopBehavior = .after delay → 100 * (delay ⌈/⌉ 100) = timeout + 200 →
    elapsed = timeout + 200 ∧ outcome = match tie with
      | .look => .graceful
      | .deadline => .terminated
  /-- What stops by itself in the time that it is granted is left to do so, and told within the next look. -/
  prompt : ∀ delay, m.stopBehavior = .after delay → delay ≤ timeout →
    outcome = .graceful ∧ delay ≤ elapsed ∧ elapsed < delay + 100
  queried : outcome = .graceful → ∀ delay, m.stopBehavior = .after delay →
    m'.queries = m.queries + delay ⌈/⌉ 100
  spared : outcome = .graceful → m'.terminated = m.terminated
  /-- The process was ended by force, and never before. -/
  forced : outcome ≠ .graceful → m'.terminated = pid :: m.terminated ∧ pid ∉ m.terminated
  stopped : ∃ s', m'.services.find? name = some s' ∧ s'.status.state = .stopped ∧ s'.status.processId = 0

section Endings

variable {tie : Tie} {timeout delay : Nat}

/-- The look by which a process has stopped. -/
theorem look_eq (delay : Nat) : (delay + interval - 1) / interval = delay ⌈/⌉ interval :=
  (Nat.ceilDiv_eq_add_pred_div delay interval).symm

theorem stopEnding_served (served : Served tie timeout (delay ⌈/⌉ interval)) :
    stopEnding tie timeout (.after delay) = (.graceful, interval * (delay ⌈/⌉ interval)) ∧
      stopQueries tie timeout (.after delay) = delay ⌈/⌉ interval := by
  have among := (StopTarget.served_iff tie timeout _).1 served
  dsimp only [stopEnding, stopQueries]
  rw [look_eq, if_pos among, Nat.min_eq_left among]
  exact ⟨rfl, rfl⟩

theorem stopEnding_unserved (unserved : ¬ Served tie timeout (delay ⌈/⌉ interval)) :
    stopEnding tie timeout (.after delay) = (.terminated, grace timeout) := by
  have beyond := mt (StopTarget.served_iff tie timeout _).2 unserved
  dsimp only [stopEnding]
  rw [look_eq, if_neg beyond]

/-- The look by which a process has stopped comes less than an interval after that. -/
theorem look_bounds (delay : Nat) : delay ≤ 100 * (delay ⌈/⌉ 100) ∧ 100 * (delay ⌈/⌉ 100) < delay + 100 := by
  rw [Nat.ceilDiv_eq_add_pred_div]
  omega

variable {m m' : Machine} {name : String} {s : Service} {pid : Nat}

theorem terminated_ended (m : Machine) (name : String) (s : Service) (pid : Nat) (outcome : StopOutcome) :
    (m.ended name s pid outcome).terminated =
      if outcome = .graceful then m.terminated else pid :: m.terminated := by
  cases outcome <;> rfl

/-- **A stop ends as it must** if the machine after it is the one that `stopEnding` tells of. -/
theorem Ending.of_told (sound : m.ledger.Sound) (found : m.services.find? name = some s)
    (process : s.phase.process? = some pid)
    (queried : m'.queries = m.queries + stopQueries tie timeout m.stopBehavior)
    (terminated : m'.terminated = (m.ended name s pid (stopEnding tie timeout m.stopBehavior).1).terminated)
    (stopped : ∃ s', m'.services.find? name = some s' ∧ s'.phase = .stopped) :
    Ending tie timeout m name pid (stopEnding tie timeout m.stopBehavior).1
      (stopEnding tie timeout m.stopBehavior).2 m' := by
  rw [terminated_ended] at terminated
  have inTime (delay : Nat) (hb : m.stopBehavior = .after delay)
      (early : 100 * (delay ⌈/⌉ 100) < timeout + 200) :
      (stopEnding tie timeout m.stopBehavior).1 = .graceful ∧
        (stopEnding tie timeout m.stopBehavior).2 = 100 * (delay ⌈/⌉ 100) := by
    have served : Served tie timeout (delay ⌈/⌉ interval) := .inl early
    rw [hb, (stopEnding_served served).1]
    exact ⟨rfl, rfl⟩
  constructor
  case rejecting =>
    intro hb
    rw [hb]
    exact ⟨rfl, rfl⟩
  case hanging =>
    intro hb
    rw [hb]
    exact ⟨rfl, rfl⟩
  case inTime => exact inTime
  case late =>
    intro delay hb late
    have unserved : ¬ Served tie timeout (delay ⌈/⌉ interval) := by
      rintro (before | ⟨together, -⟩)
      · exact Nat.lt_asymm before late
      · exact Nat.ne_of_gt late together
    rw [hb, stopEnding_unserved unserved]
    exact ⟨rfl, rfl⟩
  case tied =>
    intro delay hb together
    cases tie with
    | look =>
      have served : Served .look timeout (delay ⌈/⌉ interval) := .inr ⟨together, rfl⟩
      rw [hb, (stopEnding_served served).1]
      exact ⟨together, rfl⟩
    | deadline =>
      have unserved : ¬ Served .deadline timeout (delay ⌈/⌉ interval) := by
        rintro (before | ⟨-, first⟩)
        · exact Nat.ne_of_lt before together
        · cases first
      rw [hb, stopEnding_unserved unserved]
      exact ⟨rfl, rfl⟩
  case prompt =>
    intro delay hb within
    obtain ⟨after, before⟩ := look_bounds delay
    obtain ⟨graceful, elapsed⟩ := inTime delay hb (by omega)
    rw [elapsed]
    exact ⟨graceful, after, before⟩
  case queried =>
    intro graceful delay hb
    rw [hb] at graceful queried
    by_cases served : Served tie timeout (delay ⌈/⌉ interval)
    · rw [(stopEnding_served served).2] at queried
      exact queried
    · rw [stopEnding_unserved served] at graceful
      cases graceful
  case spared =>
    intro graceful
    rw [terminated, if_pos graceful]
  case forced =>
    intro forced
    rw [terminated, if_neg forced]
    exact ⟨rfl, sound.gone found process⟩
  case stopped =>
    obtain ⟨s', found', stopped⟩ := stopped
    refine ⟨s', found', ?_, ?_⟩ <;> rw [Service.status, stopped] <;> rfl

end Endings

/-! ## What is remembered of a stop -/

section Remembered

variable {m : Machine}

theorem queries_eq (m : Machine) : m.queries = m.history.count (.asked .query) := by
  unfold Machine.queries Machine.operations
  rw [List.count_filterMap, ← List.countP_reverse, List.reverse_reverse, List.count]
  refine List.countP_congr fun e _ => ?_
  cases e <;> simp

theorem queries_queried (m : Machine) (n : Nat) : (m.queried n).queries = m.queries + n := by
  rw [queries_eq, queries_eq, Machine.queried, List.count_append, List.count_replicate_self, Nat.add_comm]

/-- To remember something else is to have been asked no more often for a state. -/
theorem queries_cons {e : Event} (other : e ≠ .asked .query) {m' : Machine} (h : m'.history = e :: m.history) :
    m'.queries = m.queries := by
  rw [queries_eq, queries_eq, h, List.count_cons_of_ne other]

theorem queries_same {m' : Machine} (h : m'.history = m.history) : m'.queries = m.queries := by
  rw [queries_eq, queries_eq, h]

theorem history_ended (m : Machine) (name : String) (s : Service) (pid : Nat) (outcome : StopOutcome) :
    (m.ended name s pid outcome).history = m.history := by
  cases outcome <;> rfl

namespace Machine

/-- Back from an entry in a session, and from the session. -/
def leftEntry (m : Machine) : Machine :=
  { m with openEntries := m.openEntries - 1, history := .entryClosed :: m.history }

def leftSession (m : Machine) : Machine :=
  { m with openSessions := m.openSessions - 1, history := .sessionClosed :: m.history }

/-- In a session and, in this, an entry. -/
def entered (m : Machine) : Machine := ((m.asked .connect).holdingSession.asked .openEntry).holdingEntry

end Machine

theorem queries_entered (m : Machine) : m.entered.queries = m.queries := by
  simp [queries_eq, Machine.entered, Machine.holdingEntry, Machine.holdingSession, Machine.asked, Machine.remembering]

theorem queries_left (m : Machine) : m.leftEntry.leftSession.queries = m.queries := by
  simp [queries_eq, Machine.leftEntry, Machine.leftSession]

variable {γ : Type} {c : Controller γ Unit String}

/-- The machine once nothing is provided any more for failures of a service, if the configuration asks for that. -/
def unprovided (c : Controller γ Unit String) (m : Machine) (s : Service) : Machine :=
  if c.config.restartOnFailure then (m.asked .setRecovery).withService c.name { s with recovery := .none } else m

theorem queries_unprovided (m : Machine) (s : Service) : (unprovided c m s).queries = m.queries := by
  unfold unprovided
  split
  · exact queries_cons (e := .asked .setRecovery) nofun rfl
  · rfl

theorem terminated_unprovided (m : Machine) (s : Service) : (unprovided c m s).terminated = m.terminated := by
  unfold unprovided
  split <;> rfl

end Remembered

section Controllers

variable {γ α : Type} [Background γ] {c : Controller γ Unit String} {cell : Cell γ Machine} {m : Machine} {s : Service}
  {now pid : Nat} (g : Governs c cell)
include g

/-- What is done with an entry, and what is remembered of getting there and back. -/
theorem withEntry_remembers (granted : m.deniesAccess = false) (found : m.services.find? c.name = some s)
    {use : String → Op γ α} {r : Except ServiceError α} {later : Nat} {m' : Machine}
    (hu : cell.Returns (use c.name) ⟨now, m.entered⟩ r ⟨later, m'⟩) :
    cell.Returns (c.withEntry use) ⟨now, m⟩ r ⟨later, m'.leftEntry.leftSession⟩ := by
  have lawful := g.quiet.toLawful
  have hconnect : cell.Returns (gateway cell).connect ⟨now, m⟩ (.ok ()) ⟨now, (m.asked .connect).holdingSession⟩ :=
    asking_answers lawful (connect_granted granted)
  have hopen : cell.Returns ((gateway cell).openEntry () c.name) ⟨now, (m.asked .connect).holdingSession⟩
      (.ok c.name) ⟨now, m.entered⟩ :=
    asking_answers lawful (openEntry_found found)
  have hclose : cell.Leads ((gateway cell).closeEntry c.name) ⟨later, m'⟩ (some ()) ⟨later, m'.leftEntry⟩ :=
    Leads.takeFrom lawful _
  have hleave : cell.Leads ((gateway cell).closeSession ()) ⟨later, m'.leftEntry⟩ (some ())
      ⟨later, m'.leftEntry.leftSession⟩ :=
    Leads.takeFrom lawful _
  unfold Controller.withEntry
  rw [g.gateway]
  refine Returns.holding (Returns.call hconnect) ?_ (Leads.act hleave)
  exact Returns.holding (Returns.call hopen) hu (Leads.act hclose)

/-- A stop within the time that the machine grants. -/
theorem stopAndWait_granted (sound : m.ledger.Sound) (found : m.services.find? c.name = some s)
    (running : s.phase = .running pid) :
    let ending := stopEnding c.tie m.stopTimeout m.stopBehavior
    let queries := stopQueries c.tie m.stopTimeout m.stopBehavior
    cell.Returns (do
        let timeout ← c.gateway.stopTimeout
        let target : StopTarget γ := ⟨c.gateway.control c.name, c.gateway.query c.name, c.terminate⟩
        target.stopAndWait c.tie timeout : Op γ StopOutcome)
      ⟨now, m⟩ (.ok ending.1) ⟨now + ending.2, ((m.asked .control).queried queries).ended c.name s pid ending.1⟩ := by
  have htimeout : cell.Leads c.gateway.stopTimeout ⟨now, m⟩ (some m.stopTimeout) ⟨now, m⟩ := by
    rw [g.gateway]
    refine .get ?_
    intro scene hs
    rw [show cell.get scene.world = m from (Sight.mk.inj hs).2]
    exact .pure _
  have htarget :
      (⟨c.gateway.control c.name, c.gateway.query c.name, c.terminate⟩ : StopTarget γ) = target cell c.name := by
    rw [g.gateway, g.terminate]
    rfl
  refine (Returns.act htimeout).bind ?_
  rw [htarget]
  exact stopAndWait_running g.quiet c.tie m.stopTimeout now sound found running

/-- **How the stop of a running service ends for its controller.** -/
theorem stopEntry_remembers (sound : m.ledger.Sound) (found : m.services.find? c.name = some s)
    (running : s.phase = .running pid) :
    let ending := stopEnding c.tie m.stopTimeout m.stopBehavior
    let queries := stopQueries c.tie m.stopTimeout m.stopBehavior
    cell.Returns (c.stopEntry c.name) ⟨now, m⟩ (.ok ending.1) ⟨now + ending.2,
      (((unprovided c m s).asked .control).queried queries).ended c.name (recovering c .none s) pid ending.1⟩ := by
  unfold Controller.stopEntry unprovided recovering
  cases c.config.restartOnFailure with
  | false =>
    simp only [Bool.false_eq_true, if_false]
    exact stopAndWait_granted g sound found running
  | true =>
    simp only [if_true]
    have hset : cell.Returns (c.gateway.setRecovery c.name .none) ⟨now, m⟩ (.ok ())
        ⟨now, (m.asked .setRecovery).withService c.name { s with recovery := .none }⟩ := by
      have answered : Answers (setRecovery now c.name .none) m _ _ := setRecovery_found found .none
      rw [rests_running running] at answered
      rw [g.gateway]
      exact askingNow_answers g.quiet.toLawful answered
    refine (Returns.call hset).bind ?_
    have found' := (m.asked .setRecovery).find?_withService c.name { s with recovery := .none }
    exact stopAndWait_granted g (sound.put_kept found rfl rfl) found' running

/-! ## Stops -/

omit g in
/-- A stop by whoever has the entry of the service. -/
theorem stopAndWait_ends (quiet : cell.Undisturbed) (name : String) (sound : m.ledger.Sound)
    (found : m.services.find? name = some s) (running : s.phase = .running pid) (tie : Tie) (timeout : Nat) :
    ∃ outcome elapsed m',
      cell.Returns ((target cell name).stopAndWait tie timeout) ⟨now, m⟩ (.ok outcome) ⟨now + elapsed, m'⟩ ∧
        Ending tie timeout m name pid outcome elapsed m' := by
  have process : s.phase.process? = some pid := by
    rw [running]
    rfl
  refine ⟨_, _, _, stopAndWait_running quiet tie timeout now sound found running, ?_⟩
  refine .of_told sound found process ?_ ?_ ?_
  · rw [queries_same (history_ended _ _ _ _ _), queries_queried, queries_cons (e := .asked .control) nofun rfl]
  · rw [terminated_ended, terminated_ended]
    rfl
  · exact ⟨_, Machine.find?_ended _ _ _ _ _, rfl⟩

/-- A stop by the controller of the service. -/
theorem stop_ends (granted : m.deniesAccess = false) (sound : m.ledger.Sound)
    (found : m.services.find? c.name = some s) (running : s.phase = .running pid) :
    ∃ outcome elapsed m',
      cell.Returns (c.withEntry c.stopEntry) ⟨now, m⟩ (.ok outcome) ⟨now + elapsed, m'⟩ ∧
        cell.Returns c.stop ⟨now, m⟩ (.ok ()) ⟨now + elapsed, m'⟩ ∧
        Ending c.tie m.stopTimeout m c.name pid outcome elapsed m' := by
  have process : s.phase.process? = some pid := by
    rw [running]
    rfl
  have hstop : cell.Returns (c.stopEntry c.name) ⟨now, m.entered⟩ _ _ := stopEntry_remembers g sound found running
  have hentry := withEntry_remembers g granted found hstop
  refine ⟨_, _, _, hentry, ?_, ?_⟩
  · unfold Controller.stop
    exact (Returns.log _ _).bind (hentry.bind (Returns.log _ _))
  refine (Ending.of_told sound found process ?_ ?_ ?_ : Ending c.tie m.stopTimeout m c.name pid _ _ _)
  · rw [queries_left, queries_same (history_ended _ _ _ _ _), queries_queried]
    rw [queries_cons (e := .asked .control) nofun rfl, queries_unprovided, queries_entered]
    rfl
  · have untouched (queries : Nat) :
        (((unprovided c m.entered s).asked .control).queried queries).terminated = m.terminated :=
      terminated_unprovided m.entered s
    show (Machine.ended _ _ _ _ _).terminated = _
    rw [terminated_ended, terminated_ended, untouched]
    rfl
  · exact ⟨_, Machine.find?_ended _ _ _ _ _, rfl⟩

/-- **How every stop of a running service ends**, with the manager's own means to end a process: for whoever asks for it
with the entry of the service and a time of his own, and for the controller of the service with the time that the manager
grants.  Whatever the machine was asked before, the service has stopped then. -/
theorem stops_end (started : Nat) (requests : List Request) (now : Nat) :
    let m := ((Trace.empty started).serveAll requests).machine
    ∀ {s pid}, m.services.find? c.name = some s → s.phase = .running pid →
      (∀ tie timeout, ∃ outcome elapsed m',
        cell.Returns ((target cell c.name).stopAndWait tie timeout) ⟨now, m⟩ (.ok outcome) ⟨now + elapsed, m'⟩ ∧
          Ending tie timeout m c.name pid outcome elapsed m') ∧
      (m.deniesAccess = false → ∃ outcome elapsed m',
        cell.Returns (c.withEntry c.stopEntry) ⟨now, m⟩ (.ok outcome) ⟨now + elapsed, m'⟩ ∧
          cell.Returns c.stop ⟨now, m⟩ (.ok ()) ⟨now + elapsed, m'⟩ ∧
          Ending c.tie m.stopTimeout m c.name pid outcome elapsed m') := by
  intro m s pid found running
  have sound : m.ledger.Sound := (Trace.serveAll_sound (Trace.empty_sound started) requests).1
  constructor
  · intro tie timeout
    exact stopAndWait_ends g.quiet c.name sound found running tie timeout
  · intro granted
    exact stop_ends g granted sound found running

omit g in
open Scenario.Shared (World machineCell machineCell_undisturbed) in
/-- A process has stopped by the look that falls on the deadline.  If the look comes first it is left alone, and if the
deadline does it is ended. -/
theorem stops_end_tied :
    let c : Controller World Unit String := Scenario.Role.controller
      { config := { name := "svcA", restartOnFailure := true } } 0 (gateway machineCell) (terminator machineCell)
      (.ok "/bin/svc")
    let requests : List Request := [.create { name := "svcA" }, .start "svcA", .set (.stopBehavior (.after 250)),
      .set (.stopTimeout 100)]
    let m := ((Trace.empty 0).serveAll requests).machine
    Governs c machineCell ∧ (∃ s, m.services.find? c.name = some s ∧ s.phase = .running 1000) ∧
      m.deniesAccess = false ∧
      (∃ m', machineCell.Returns c.stop ⟨7, m⟩ (.ok ()) ⟨307, m'⟩ ∧ m'.queries = 3 ∧ m'.terminated = []) ∧
      ∃ m', machineCell.Returns ((target machineCell c.name).stopAndWait .deadline 100) ⟨7, m⟩ (.ok .terminated)
          ⟨307, m'⟩ ∧ m'.terminated = [1000] := by
  intro c requests m
  have g : Governs c machineCell := ⟨rfl, rfl, machineCell_undisturbed⟩
  have found : m.services.find? c.name = some { spec := { name := "svcA" }, starts := 1, phase := .running 1000 } := by
    decide +kernel
  have granted : m.deniesAccess = false := by decide +kernel
  have behavior : m.stopBehavior = .after 250 := by decide +kernel
  have timeout : m.stopTimeout = 100 := by decide +kernel
  have fresh : m.queries = 0 ∧ m.terminated = [] := by decide +kernel
  have looks : 250 ⌈/⌉ 100 = 3 := by rw [Nat.ceilDiv_eq_add_pred_div]
  obtain ⟨holder, controller⟩ := stops_end g 0 requests 7 found rfl
  refine ⟨g, ⟨_, found, rfl⟩, granted, ?_, ?_⟩
  · obtain ⟨outcome, elapsed, m', -, hstop, ending⟩ := controller granted
    obtain ⟨rfl, graceful⟩ := ending.tied 250 behavior (by rw [looks, timeout])
    have queried := ending.queried graceful 250 behavior
    rw [looks, fresh.1] at queried
    rw [timeout] at hstop
    exact ⟨m', hstop, queried, (ending.spared graceful).trans fresh.2⟩
  · obtain ⟨outcome, elapsed, m', hstop, ending⟩ := holder .deadline 100
    obtain ⟨rfl, rfl⟩ := ending.tied 250 behavior (by rw [looks])
    obtain ⟨terminated, -⟩ := ending.forced nofun
    rw [fresh.2] at terminated
    exact ⟨m', hstop, terminated⟩

end Controllers

end ServiceControl.Memory
