import ServiceControl.Proofs.Memory.Calls
import ServiceControl.Proofs.Memory.Processes
import ServiceControl.Proofs.Watch
/-!
# Stops over the memory manager

How a bounded stop of a running service ends, when, and how often the service is looked at: this is fixed by what its
process does when it is asked to stop and by the time it is granted (`stopAndWait_running`).  In any case the service has
stopped then.
-/
namespace ServiceControl.Memory

open Cell (Returns Leads)
open StopTarget (interval grace looks)

variable {γ : Type} {cell : Cell γ Machine} {b m : Machine} {name : String} {s : Service} {now pid : Nat}

namespace Machine

/-- The service has stopped by itself. -/
def stopped (m : Machine) (name : String) (s : Service) : Machine := m.withService name { s with phase := .stopped }

/-- The process of the service was ended by force. -/
def killed (m : Machine) (name : String) (s : Service) (pid : Nat) : Machine :=
  { m.stopped name s with terminated := pid :: m.terminated }

/-- The service was asked to stop and goes on. -/
def stopping (m : Machine) (name : String) (s : Service) (pid since : Nat) : Machine :=
  m.withService name { s with phase := .stopping pid since }

/-- The machine that was asked so often for the state of a service. -/
def queried (m : Machine) (n : Nat) : Machine := { m with history := List.replicate n (.asked .query) ++ m.history }

theorem find?_withService (m : Machine) (name : String) (s : Service) :
    (m.withService name s).services.find? name = some s := by
  rw [withService, NameMap.find?_put, if_pos rfl]

end Machine

/-! ## Calls of a stop -/

section Calls

variable (lawful : cell.Lawful)
include lawful

theorem control_unstarted (found : m.services.find? name = some s) (h : s.phase = .stopped) :
    cell.Returns ((gateway cell).control name .stop) ⟨now, m⟩ (.error notStarted) ⟨now, m.asked .control⟩ := by
  have rests := rests_stopped h
  have stopped : (s.refresh now m.stopBehavior).phase = .stopped := by
    rw [rests]
    exact h
  rw [← touched_rests found rests .control now]
  exact askingNow_answers lawful (control_stop_stopped found stopped)

section Running

variable (found : m.services.find? name = some s) (running : s.phase = .running pid)
include found running

theorem control_rejected (rejects : m.stopBehavior = .reject) :
    cell.Returns ((gateway cell).control name .stop) ⟨now, m⟩ (.error notValid) ⟨now, m.asked .control⟩ := by
  have rests := rests_running running
  have running' : (s.refresh now m.stopBehavior).phase = .running pid := by
    rw [rests]
    exact running
  rw [← touched_rests found rests .control now]
  exact askingNow_answers lawful (control_stop_rejected found running' rejects)

theorem control_accepted (accepts : m.stopBehavior ≠ .reject) :
    let phase := (Phase.stopping pid now).refresh now m.stopBehavior
    cell.Returns ((gateway cell).control name .stop) ⟨now, m⟩ (.ok phase.status)
      ⟨now, (m.asked .control).withService name { s with phase }⟩ := by
  have running' : (s.refresh now m.stopBehavior).phase = .running pid := by
    rw [rests_running running]
    exact running
  exact askingNow_answers lawful (control_stop_accepted found running' accepts)

end Running

theorem terminator_returns (sound : m.ledger.Sound) (found : m.services.find? name = some s)
    (process : s.phase.process? = some pid) :
    cell.Returns (terminator cell pid) ⟨now, m⟩ (.ok ()) ⟨now, m.killed name s pid⟩ := by
  have positive : pid ≠ 0 := by
    have := (sound.issued found process).1
    omega
  exact asking_answers lawful
    (terminate_found (sound.find?_process.2 ⟨found, hasProcess_iff.2 ⟨positive, process⟩⟩))

theorem query_rests (found : m.services.find? name = some s) (rests : s.Rests) :
    cell.Returns ((gateway cell).query name) ⟨now, m⟩ (.ok s.status) ⟨now, m.asked .query⟩ := by
  have answered : Answers (query now name) m _ _ := query_found found
  rw [touched_rests found rests, rests] at answered
  exact askingNow_answers lawful answered

end Calls

/-! ## Looks at a stopping service -/

/-- A process that was asked to stop does so within this time. -/
def StopBehavior.StopsWithin (ms : Nat) : StopBehavior → Prop
  | .after delay => delay ≤ ms
  | _ => False

section Looks

variable {since ms : Nat} {behavior : StopBehavior}

theorem refresh_over (h : behavior.StopsWithin ms) :
    (Phase.stopping pid since).refresh (since + ms) behavior = .stopped := by
  cases behavior with
  | after delay => exact if_pos (Nat.add_le_add_left h since)
  | never => exact h.elim
  | reject => exact h.elim

theorem refresh_going (h : ¬ behavior.StopsWithin ms) :
    (Phase.stopping pid since).refresh (since + ms) behavior = .stopping pid since := by
  cases behavior with
  | after delay => exact if_neg fun hd => h (Nat.le_of_add_le_add_left hd)
  | never => rfl
  | reject => rfl

variable (lawful : cell.Lawful)
include lawful

theorem query_over (h : m.stopBehavior.StopsWithin ms) :
    cell.Returns ((gateway cell).query name) ⟨since + ms, m.stopping name s pid since⟩ (.ok .stopped)
      ⟨since + ms, (m.asked .query).stopped name s⟩ := by
  have hr : Service.refresh (since + ms) (m.stopping name s pid since).stopBehavior
      { s with phase := .stopping pid since } = { s with phase := .stopped } :=
    congrArg (fun phase => { s with phase }) (refresh_over h)
  have answered : Answers (query (since + ms) name) (m.stopping name s pid since) _ _ :=
    query_found (m.find?_withService name { s with phase := .stopping pid since })
  have twice : ((m.stopping name s pid since).asked .query).withService name { s with phase := .stopped }
      = (m.asked .query).stopped name s :=
    (m.asked .query).withService_withService name _ _
  rw [Machine.touched, hr, twice] at answered
  exact askingNow_answers lawful answered

theorem query_going (h : ¬ m.stopBehavior.StopsWithin ms) :
    cell.Returns ((gateway cell).query name) ⟨since + ms, m.stopping name s pid since⟩ (.ok ⟨.stopPending, pid⟩)
      ⟨since + ms, (m.asked .query).stopping name s pid since⟩ := by
  have hr : Service.refresh (since + ms) (m.stopping name s pid since).stopBehavior
      { s with phase := .stopping pid since } = { s with phase := .stopping pid since } :=
    congrArg (fun phase => { s with phase }) (refresh_going h)
  have found := m.find?_withService name { s with phase := .stopping pid since }
  have answered : Answers (query (since + ms) name) (m.stopping name s pid since) _ _ := query_found found
  rw [Machine.touched, hr, withService_self (by exact found)] at answered
  exact askingNow_answers lawful answered

end Looks

/-! ## The stop -/

/-- How a running service stops, and how long that takes: a service that takes the request is found to have stopped by the
first look after that, unless the deadline comes before. -/
def stopEnding (tie : Tie) (timeout : Nat) : StopBehavior → StopOutcome × Nat
  | .reject => (.rejected, interval)
  | .never => (.terminated, grace timeout)
  | .after delay =>
    let look := (delay + interval - 1) / interval
    if look ≤ looks tie timeout then (.graceful, interval * look) else (.terminated, grace timeout)

/-- How often a running service is asked for its state until it has stopped. -/
def stopQueries (tie : Tie) (timeout : Nat) : StopBehavior → Nat
  | .reject => 2
  | .never => looks tie timeout
  | .after delay => min ((delay + interval - 1) / interval) (looks tie timeout)

/-- The machine after a stop. -/
def Machine.ended (m : Machine) (name : String) (s : Service) (pid : Nat) : StopOutcome → Machine
  | .graceful => m.stopped name s
  | _ => m.killed name s pid

/-- The entry of a service, and the end of its process. -/
def target (cell : Cell γ Machine) (name : String) : StopTarget γ :=
  ⟨(gateway cell).control name, (gateway cell).query name, terminator cell⟩

section Stop

variable [Background γ] (quiet : cell.Undisturbed) {tie : Tie} {timeout n since : Nat}
  {outcome : StopOutcome}
include quiet

theorem presentCell_still : (presentCell cell).Still := Cell.inside_still quiet.toStill _

omit quiet in
theorem stopPending_going (pid : Nat) : (ServiceStatus.mk .stopPending pid).state ≠ .stopped := nofun

/-- Looks before the service stops. -/
theorem watch_going {r : Except ServiceError StopOutcome} {σ : Sight Machine}
    (going : ∀ k ≤ n, ¬ m.stopBehavior.StopsWithin (interval * k)) (served : n ≤ looks tie timeout)
    (hw : cell.Returns ((target cell name).watch tie timeout (since + grace timeout) outcome
      (since + interval * (n + 1)) ⟨.stopPending, pid⟩)
      ⟨since + interval * n, (m.queried n).stopping name s pid since⟩ r σ) :
    cell.Returns ((target cell name).watch tie timeout (since + grace timeout) outcome (since + interval)
      ⟨.stopPending, pid⟩) ⟨since, m.stopping name s pid since⟩ r σ := by
  refine StopTarget.watch_skip quiet.toStill (fun k => (m.queried k).stopping name s pid since)
    (fun _ => ⟨.stopPending, pid⟩) served ?_ ?_ hw
  · intro k hk
    exact query_going (m := m.queried k) quiet.toLawful (going (k + 1) hk)
  · intro k hk
    exact stopPending_going pid

theorem watch_graceful (going : ∀ k ≤ n, ¬ m.stopBehavior.StopsWithin (interval * k))
    (ends : m.stopBehavior.StopsWithin (interval * (n + 1))) (served : n + 1 ≤ looks tie timeout) :
    cell.Returns ((target cell name).watch tie timeout (since + grace timeout) outcome (since + interval)
      ⟨.stopPending, pid⟩) ⟨since, m.stopping name s pid since⟩ (.ok outcome)
      ⟨since + interval * (n + 1), (m.queried (n + 1)).stopped name s⟩ := by
  have hlook : cell.Returns (target cell name).query
      ⟨since + interval * (n + 1), (m.queried n).stopping name s pid since⟩ (.ok .stopped)
      ⟨since + interval * (n + 1), (m.queried (n + 1)).stopped name s⟩ :=
    query_over (m := m.queried n) quiet.toLawful ends
  refine watch_going quiet going (Nat.le_of_succ_le served) ?_
  exact StopTarget.watch_look quiet.toStill (stopPending_going pid) ((StopTarget.served_iff tie timeout _).2 served)
    hlook (StopTarget.watch_stopped rfl)

/-- A service that goes on up to the deadline is terminated then. -/
theorem watch_terminated (sound : m.ledger.Sound) (found : m.services.find? name = some s)
    (process : s.phase.process? = some pid)
    (going : ∀ k ≤ looks tie timeout, ¬ m.stopBehavior.StopsWithin (interval * k)) :
    cell.Returns ((target cell name).watch tie timeout (since + grace timeout) outcome (since + interval)
      ⟨.stopPending, pid⟩) ⟨since, m.stopping name s pid since⟩ (.ok .terminated)
      ⟨since + grace timeout, (m.queried (looks tie timeout)).killed name s pid⟩ := by
  have hsound : ((m.queried (looks tie timeout)).stopping name s pid since).ledger.Sound :=
    sound.put_kept found rfl process.symm
  have hk : cell.Leads ((target cell name).kill pid)
      ⟨since + grace timeout, (m.queried (looks tie timeout)).stopping name s pid since⟩ (some ()) _ :=
    StopTarget.kill_leads (terminator_returns quiet.toLawful hsound (Machine.find?_withService _ _ _) rfl)
  rw [Machine.killed, Machine.stopped, Machine.stopping, Machine.withService_withService] at hk
  refine watch_going quiet going (Nat.le_refl _) ?_
  exact StopTarget.watch_deadline quiet.toStill (stopPending_going pid) rfl hk

/-- A service that takes the request and goes on is watched. -/
theorem stopAndWait_going (found : m.services.find? name = some s) (running : s.phase = .running pid)
    (accepts : m.stopBehavior ≠ .reject) (going : ¬ m.stopBehavior.StopsWithin 0) {r : Except ServiceError StopOutcome}
    {σ : Sight Machine}
    (hw : cell.Returns ((target cell name).watch tie timeout (now + grace timeout) .graceful (now + interval)
      ⟨.stopPending, pid⟩) ⟨now, (m.asked .control).stopping name s pid now⟩ r σ) :
    cell.Returns ((target cell name).stopAndWait tie timeout) ⟨now, m⟩ r σ := by
  have hc : cell.Returns ((gateway cell).control name .stop) ⟨now, m⟩ _ _ :=
    control_accepted quiet.toLawful found running accepts
  have phase : (Phase.stopping pid now).refresh now m.stopBehavior = .stopping pid now := refresh_going going
  rw [phase] at hc
  exact StopTarget.stopAndWait_request (StopTarget.request_accepted hc) hw

/-- A service that rejects the request has stopped by the first look after its end. -/
theorem stopAndWait_rejected (sound : m.ledger.Sound) (found : m.services.find? name = some s)
    (running : s.phase = .running pid) (rejects : m.stopBehavior = .reject) :
    cell.Returns ((target cell name).stopAndWait tie timeout) ⟨now, m⟩ (.ok .rejected)
      ⟨now + interval, ((m.asked .control).queried 2).killed name s pid⟩ := by
  have process : s.phase.process? = some pid := by
    rw [running]
    rfl
  have hc : cell.Returns ((target cell name).control .stop) ⟨now, m⟩ (.error notValid) ⟨now, m.asked .control⟩ :=
    control_rejected quiet.toLawful found running rejects
  have hq : cell.Returns (target cell name).query ⟨now, m.asked .control⟩ (.ok ⟨.running, pid⟩)
      ⟨now, (m.asked .control).queried 1⟩ := by
    have h : cell.Returns ((gateway cell).query name) ⟨now, m.asked .control⟩ _ _ :=
      query_rests (m := m.asked .control) quiet.toLawful found (rests_running running)
    rwa [Service.status, running] at h
  have hk : cell.Leads ((target cell name).kill pid) ⟨now, (m.asked .control).queried 1⟩ (some ())
      ⟨now, ((m.asked .control).queried 1).killed name s pid⟩ :=
    StopTarget.kill_leads (terminator_returns quiet.toLawful (by exact sound) (by exact found) process)
  have found' : (((m.asked .control).queried 1).killed name s pid).services.find? name
      = some { s with phase := .stopped } :=
    Machine.find?_withService _ name _
  have hlook : cell.Returns (target cell name).query
      ⟨now + interval, ((m.asked .control).queried 1).killed name s pid⟩ (.ok .stopped)
      ⟨now + interval, ((m.asked .control).queried 2).killed name s pid⟩ :=
    query_rests quiet.toLawful found' (rests_stopped rfl)
  have served : StopTarget.Served tie timeout 1 := (StopTarget.served_iff tie timeout 1).2 (StopTarget.looks_pos tie timeout)
  have going : RuntimeState.running ≠ .stopped := by decide
  refine StopTarget.stopAndWait_request (StopTarget.request_rejected hc rfl hq hk) ?_
  exact StopTarget.watch_look (n := 0) quiet.toStill going served hlook (StopTarget.watch_stopped rfl)

/-- **How a stop of a running service ends, when, and after how many looks.** -/
theorem stopAndWait_running (tie : Tie) (timeout now : Nat) (sound : m.ledger.Sound)
    (found : m.services.find? name = some s) (running : s.phase = .running pid) :
    let ending := stopEnding tie timeout m.stopBehavior
    cell.Returns ((target cell name).stopAndWait tie timeout) ⟨now, m⟩ (.ok ending.1) ⟨now + ending.2,
      ((m.asked .control).queried (stopQueries tie timeout m.stopBehavior)).ended name s pid ending.1⟩ := by
  have process : s.phase.process? = some pid := by
    rw [running]
    rfl
  cases hb : m.stopBehavior with
  | reject => exact stopAndWait_rejected quiet sound found running hb
  | never =>
    have accepts : m.stopBehavior ≠ .reject := by
      rw [hb]
      exact nofun
    have going (ms : Nat) : ¬ m.stopBehavior.StopsWithin ms := by
      rw [hb]
      exact id
    refine stopAndWait_going quiet found running accepts (going 0) ?_
    exact watch_terminated quiet (by exact sound) (by exact found) process fun _ _ => going _
  | after delay =>
    have accepts : m.stopBehavior ≠ .reject := by
      rw [hb]
      exact nofun
    have within (ms : Nat) : m.stopBehavior.StopsWithin ms ↔ delay ≤ ms := by
      rw [hb]
      exact Iff.rfl
    have hlook (k : Nat) : delay ≤ interval * k ↔ (delay + interval - 1) / interval ≤ k := by
      unfold interval
      omega
    dsimp only [stopEnding, stopQueries]
    cases hk : (delay + interval - 1) / interval with
    | zero =>
      -- it has stopped by the time the request is answered
      have hc : cell.Returns ((gateway cell).control name .stop) ⟨now, m⟩ _ _ :=
        control_accepted quiet.toLawful found running accepts
      have ends : m.stopBehavior.StopsWithin 0 := (within 0).2 ((hlook 0).2 (Nat.le_of_eq hk))
      have phase : (Phase.stopping pid now).refresh now m.stopBehavior = .stopped := refresh_over ends
      rw [phase] at hc
      rw [if_pos (Nat.zero_le _), Nat.zero_min]
      exact StopTarget.stopAndWait_request (StopTarget.request_accepted hc) (StopTarget.watch_stopped rfl)
    | succ n =>
      have going (k : Nat) (h : k ≤ n) : ¬ m.stopBehavior.StopsWithin (interval * k) := by
        rw [within, hlook]
        omega
      have ends : m.stopBehavior.StopsWithin (interval * (n + 1)) := (within _).2 ((hlook _).2 (Nat.le_of_eq hk))
      by_cases served : n + 1 ≤ looks tie timeout
      · rw [if_pos served, Nat.min_eq_left served]
        refine stopAndWait_going quiet found running accepts (going 0 (Nat.zero_le n)) ?_
        exact watch_graceful (m := m.asked .control) quiet going ends served
      · rw [if_neg served, Nat.min_eq_right (Nat.le_of_not_le served)]
        refine stopAndWait_going quiet found running accepts (going 0 (Nat.zero_le n)) ?_
        refine watch_terminated quiet (by exact sound) (by exact found) process fun k h => ?_
        exact going k (by omega)

/-! Apart from what the machine remembers. -/

omit quiet in
theorem present_ended (m : Machine) (operation : Operation) (n : Nat) (name : String) (s : Service) (pid : Nat)
    (outcome : StopOutcome) :
    (((m.asked operation).queried n).ended name s pid outcome).present = m.present.ended name s pid outcome := by
  cases outcome <;> rfl

theorem stopAndWait_present (tie : Tie) (timeout now : Nat) (sound : b.ledger.Sound)
    (found : b.services.find? name = some s) (running : s.phase = .running pid) :
    let ending := stopEnding tie timeout b.stopBehavior
    (presentCell cell).Returns ((target cell name).stopAndWait tie timeout) ⟨now, b⟩ (.ok ending.1)
      ⟨now + ending.2, b.ended name s pid ending.1⟩ := by
  refine Returns.inside ?_
  rintro m rfl
  exact ⟨_, present_ended _ _ _ _ _ _ _, stopAndWait_running quiet tie timeout now sound found running⟩

theorem stopAndWait_unstarted (found : b.services.find? name = some s) (h : s.phase = .stopped) :
    (presentCell cell).Returns ((target cell name).stopAndWait tie timeout) ⟨now, b⟩ (.error notStarted) ⟨now, b⟩ := by
  refine Returns.inside ?_
  rintro m rfl
  have hc : cell.Returns ((target cell name).control .stop) ⟨now, m⟩ (.error notStarted) ⟨now, m.asked .control⟩ :=
    control_unstarted quiet.toLawful found h
  exact ⟨m.asked .control, rfl, StopTarget.stopAndWait_failed (StopTarget.request_failed hc rfl)⟩

end Stop

end ServiceControl.Memory
