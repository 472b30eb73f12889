import ServiceControl.Proofs.Memory.Calls
/-!
# Services that stop on time

A machine finds out that a service has stopped when something looks at it.  A clockwork is a machine that need not look:
a service that takes the request to stop carries the instant at which it stops (`Timed.status_stopping`), and as the clock
gets there it does (`Clockwork.elapse_succ`).  Main statement: the two answer alike, whatever is asked of them and when,
and what only looks changes no other answer (`answers_eager`).
-/
namespace ServiceControl.Memory

/-! ## Demands -/

/-- What is asked about services. -/
inductive Demand
  | create (spec : ServiceSpec)
  | openEntry (name : String)
  | query (name : String)
  | start (name : String)
  | control (name : String) (signal : ControlSignal)
  | setRecovery (name : String) (action : RecoveryAction)
  | delete (name : String)
  | service (name : String)

inductive Answer
  | entry (r : Except ServiceError String)
  | status (r : Except ServiceError ServiceStatus)
  | done (r : Except ServiceError Unit)
  | service (found : Option Service)

namespace Demand

/-- It only looks at a service. -/
def looks : Demand → Bool
  | query _ | control _ .interrogate | service _ => true
  | _ => false

def ask (now : Nat) : Demand → StateM Machine Answer
  | create spec => Answer.entry <$> (Memory.create spec).run
  | openEntry name => Answer.entry <$> (Memory.openEntry name).run
  | query name => Answer.status <$> (Memory.query now name).run
  | start name => Answer.done <$> (Memory.start now name).run
  | control name signal => Answer.status <$> (Memory.control now name signal).run
  | setRecovery name action => Answer.done <$> (Memory.setRecovery now name action).run
  | delete name => Answer.done <$> (Memory.delete name).run
  | service name => Answer.service <$> Memory.service now name

end Demand

/-- What is answered to demands, each with its time. -/
def Machine.answers (m : Machine) : List (Nat × Demand) → List Answer
  | [] => []
  | (now, d) :: ds =>
    let (a, m') := (d.ask now).run m
    a :: m'.answers ds

/-! ## Services with clocks -/

/-- A service and the instant at which it stops by itself, if it is to. -/
structure Timed where
  service : Service
  due : Option Nat := none

theorem Service.refresh_refresh {now later : Nat} (h : now ≤ later) (b : StopBehavior) (s : Service) :
    (s.refresh now b).refresh later b = s.refresh later b :=
  congrArg (fun phase => { s with phase }) (s.phase.refresh_refresh h b)

namespace Timed

def stopped (t : Timed) : Timed := { service := { t.service with phase := .stopped } }

/-- The service once the clock has come to an instant. -/
def elapse (now : Nat) (t : Timed) : Timed := if t.due.any (· ≤ now) then t.stopped else t

/-- A service whose process takes the request to stop. -/
def stopping (b : StopBehavior) (pid now : Nat) (t : Timed) : Timed :=
  match b with
  | .after delay =>
    if delay = 0 then t.stopped
    else { service := { t.service with phase := .stopping pid now }, due := some (now + delay) }
  | .never | .reject => { service := { t.service with phase := .stopping pid now } }

/-- **It stops once the delay is over and not before**, and for want of a delay it never does. -/
theorem status_stopping (b : StopBehavior) (pid now : Nat) {later : Nat} (h : now ≤ later) (t : Timed) :
    let status := ((t.stopping b pid now).elapse later).service.status
    (status = .stopped ↔ ∃ delay, b = .after delay ∧ now + delay ≤ later) ∧
      (status = .stopped ∨ status = ⟨.stopPending, pid⟩) := by
  have going : (⟨.stopPending, pid⟩ : ServiceStatus) ≠ .stopped := fun same => by cases same
  cases b with
  | never => exact ⟨iff_of_false going (by rintro ⟨_, never, _⟩; cases never), .inr rfl⟩
  | reject => exact ⟨iff_of_false going (by rintro ⟨_, reject, _⟩; cases reject), .inr rfl⟩
  | after delay =>
    have hafter : (∃ d, StopBehavior.after delay = .after d ∧ now + d ≤ later) ↔ now + delay ≤ later :=
      ⟨fun ⟨_, same, past⟩ => StopBehavior.after.inj same ▸ past, fun past => ⟨delay, rfl, past⟩⟩
    rw [hafter]
    cases delay with
    | zero => exact ⟨iff_of_true rfl h, .inl rfl⟩
    | succ delay =>
      by_cases past : now + (delay + 1) ≤ later
      · have stopped : ((t.stopping (.after (delay + 1)) pid now).elapse later).service.status = .stopped := by
          simp [stopping, elapse, stopped, past, Service.status, Phase.status]
        exact ⟨iff_of_true stopped past, .inl stopped⟩
      · have pending : ((t.stopping (.after (delay + 1)) pid now).elapse later).service.status = ⟨.stopPending, pid⟩ := by
          simp [stopping, elapse, past, Service.status, Phase.status]
        exact ⟨iff_of_false (pending ▸ going) past, .inr pending⟩

/-- What happens to the service at one instant. -/
def tick (now : Nat) (t : Timed) : Timed := if t.due = some now then t.stopped else t

theorem elapse_succ (now : Nat) (t : Timed) : t.elapse (now + 1) = (t.elapse now).tick (now + 1) := by
  obtain ⟨s, due⟩ := t
  cases due with
  | none => rfl
  | some instant =>
    rcases Nat.lt_trichotomy instant (now + 1) with past | rfl | ahead
    · simp [elapse, tick, stopped, Nat.le_of_lt past, Nat.le_of_lt_succ past]
    · simp [elapse, tick, Nat.not_succ_le_self now]
    · simp [elapse, tick, Nat.not_le.2 ahead, Nat.not_le.2 (Nat.lt_of_succ_lt ahead), Nat.ne_of_gt ahead]

theorem elapse_elapse {now later : Nat} (h : now ≤ later) (t : Timed) : (t.elapse now).elapse later = t.elapse later := by
  obtain ⟨s, due⟩ := t
  cases due with
  | none => rfl
  | some instant =>
    by_cases past : instant ≤ now
    · simp [elapse, stopped, past, Nat.le_trans past h]
    · simp [elapse, past]

/-- A service of a machine, with the instant at which it stops. -/
def ofService (b : StopBehavior) (s : Service) : Timed where
  service := s
  due := match b, s.phase with
    | .after delay, .stopping _ since => some (since + delay)
    | _, _ => none

theorem ofService_stopped (b : StopBehavior) {s : Service} (h : s.phase = .stopped) : ofService b s = { service := s } := by
  unfold ofService
  rw [h]
  cases b <;> rfl

theorem ofService_running (b : StopBehavior) {s : Service} {pid : Nat} (h : s.phase = .running pid) :
    ofService b s = { service := s } := by
  unfold ofService
  rw [h]
  cases b <;> rfl

/-- A process that takes the request to stop is under the clock from then on. -/
theorem ofService_stopping (b : StopBehavior) (pid now : Nat) (s : Service) :
    ofService b { s with phase := (Phase.stopping pid now).refresh now b } = (ofService b s).stopping b pid now := by
  cases b with
  | after delay =>
    cases delay with
    | zero => simp [ofService, stopping, stopped, Phase.refresh]
    | succ delay =>
      have ahead : ¬ now + (delay + 1) ≤ now := by omega
      simp [ofService, stopping, Phase.refresh, ahead]
  | never => rfl
  | reject => rfl

/-- **To look at a service is to let its clock run.** -/
theorem ofService_refresh (b : StopBehavior) (now : Nat) (s : Service) :
    ofService b (s.refresh now b) = (ofService b s).elapse now := by
  obtain ⟨spec, recovery, starts, phase⟩ := s
  cases b with
  | after delay =>
    cases phase with
    | stopping pid since =>
      by_cases past : since + delay ≤ now <;> simp [ofService, Service.refresh, Phase.refresh, elapse, stopped, past]
    | _ => rfl
  | _ => rfl

end Timed

structure Clockwork where
  services : NameMap Timed
  behavior : StopBehavior
  failsDelete : Bool
  nextPid : Nat

namespace Clockwork

variable {α : Type}

/-- The clockwork once the clock has come to an instant. -/
def elapse (now : Nat) (k : Clockwork) : Clockwork := { k with services := k.services.mapValues (·.elapse now) }

def tick (now : Nat) (k : Clockwork) : Clockwork := { k with services := k.services.mapValues (·.tick now) }

/-- **As the clock goes on by one, the services that are due just then stop**, and nothing else happens. -/
theorem elapse_succ (now : Nat) (k : Clockwork) : k.elapse (now + 1) = (k.elapse now).tick (now + 1) := by
  unfold elapse tick
  simp only [NameMap.mapValues_mapValues]
  congr 2
  exact funext (Timed.elapse_succ now)

def withService (k : Clockwork) (name : String) (t : Timed) : Clockwork := { k with services := k.services.put name t }

/-- Asks something of the service under a name. -/
def withEntry (k : Clockwork) (name : String) (f : Timed → Except ServiceError α × Clockwork) :
    Except ServiceError α × Clockwork :=
  match k.services.find? name with
  | none => (.error (.notInstalled name), k)
  | some t => f t

def create (k : Clockwork) (spec : ServiceSpec) : Except ServiceError String × Clockwork :=
  match k.services.find? spec.name with
  | some _ => (.error (.alreadyExists spec.name), k)
  | none => (.ok spec.name, k.withService spec.name { service := { spec } })

def start (k : Clockwork) (name : String) : Except ServiceError Unit × Clockwork :=
  k.withEntry name fun t =>
    match t.service.phase with
    | .stopped =>
      let service := { t.service with phase := .running k.nextPid, starts := t.service.starts + 1 }
      (.ok (), { k.withService name { service } with nextPid := k.nextPid + 1 })
    | .running _ | .stopping .. => (.error alreadyRunning, k)

def control (now : Nat) (k : Clockwork) (name : String) (signal : ControlSignal) :
    Except ServiceError ServiceStatus × Clockwork :=
  k.withEntry name fun t =>
    match signal with
    | .interrogate => (.ok t.service.status, k)
    | .stop =>
      match t.service.phase with
      | .stopped => (.error notStarted, k)
      | .stopping .. => (.error notValid, k)
      | .running pid =>
        if k.behavior = .reject then (.error notValid, k)
        else
          let t := t.stopping k.behavior pid now
          (.ok t.service.status, k.withService name t)
    | signal => (.error (notAccepted signal t.service.spec.name), k)

def delete (k : Clockwork) (name : String) : Except ServiceError Unit × Clockwork :=
  if k.failsDelete then (.error markedForDeletion, k)
  else k.withEntry name fun _ => (.ok (), { k with services := k.services.erase name })

/-- What is answered at an instant to which the clock has come.  Nothing is brought up to date here. -/
def serve (now : Nat) (k : Clockwork) : Demand → Answer × Clockwork
  | .create spec => (k.create spec).map .entry id
  | .openEntry name => (k.withEntry name fun _ => (.ok name, k)).map .entry id
  | .query name => (k.withEntry name fun t => (.ok t.service.status, k)).map .status id
  | .start name => (k.start name).map .done id
  | .control name signal => (k.control now name signal).map .status id
  | .setRecovery name action =>
    (k.withEntry name fun t =>
      (.ok (), k.withService name { t with service := { t.service with recovery := action } })).map .done id
  | .delete name => (k.delete name).map .done id
  | .service name => (.service ((k.services.find? name).map (·.service)), k)

def answers (k : Clockwork) : List (Nat × Demand) → List Answer
  | [] => []
  | (now, d) :: ds =>
    let (a, k') := (k.elapse now).serve now d
    a :: k'.answers ds

theorem elapse_elapse {now later : Nat} (h : now ≤ later) (k : Clockwork) :
    (k.elapse now).elapse later = k.elapse later := by
  unfold elapse
  simp only [NameMap.mapValues_mapValues]
  congr 2
  exact funext (Timed.elapse_elapse h)

/-- **Letting the clock run beforehand makes no difference.** -/
theorem answers_elapse (k : Clockwork) {now : Nat} {calls : List (Nat × Demand)} (later : ∀ call ∈ calls, now ≤ call.1) :
    (k.elapse now).answers calls = k.answers calls := by
  cases calls with
  | nil => rfl
  | cons call calls =>
    unfold answers
    rw [k.elapse_elapse (later call List.mem_cons_self)]

/-- What only looks at a service leaves it as it is. -/
theorem serve_looks (k : Clockwork) (now : Nat) {d : Demand} (h : d.looks = true) : (k.serve now d).2 = k := by
  have told : ∀ (name : String) (r : Timed → Except ServiceError ServiceStatus),
      (k.withEntry name fun t => (r t, k)).2 = k := by
    intro name r
    unfold withEntry
    split <;> rfl
  match d, h with
  | .query name, _ => exact told name _
  | .control name .interrogate, _ => exact told name _
  | .service name, _ => rfl

end Clockwork

/-! ## The clockwork of a machine -/

/-- The machine with each of its services under a clock. -/
def Machine.clockwork (m : Machine) : Clockwork where
  services := m.services.mapValues (Timed.ofService m.stopBehavior)
  behavior := m.stopBehavior
  failsDelete := m.failsDelete
  nextPid := m.nextPid

section Elapsed

variable {m : Machine} {now : Nat} {name : String} {s : Service}

theorem find?_elapsed : (m.clockwork.elapse now).services.find? name =
    (m.services.find? name).map fun s => Timed.ofService m.stopBehavior (s.refresh now m.stopBehavior) := by
  show ((m.services.mapValues (Timed.ofService m.stopBehavior)).mapValues (·.elapse now)).find? name = _
  rw [NameMap.find?_mapValues, NameMap.find?_mapValues, Option.map_map]
  congr 1
  exact funext fun s => (Timed.ofService_refresh m.stopBehavior now s).symm

theorem find?_elapsed_none (h : m.services.find? name = none) :
    (m.clockwork.elapse now).services.find? name = none := by
  rw [find?_elapsed, h, Option.map_none]

theorem find?_elapsed_some (h : m.services.find? name = some s) : (m.clockwork.elapse now).services.find? name =
    some (Timed.ofService m.stopBehavior (s.refresh now m.stopBehavior)) := by
  rw [find?_elapsed, h, Option.map_some]

/-- A service that is up to date is under its clock. -/
theorem elapse_withService {s' : Service} (current : s'.refresh now m.stopBehavior = s') :
    (m.withService name s').clockwork.elapse now =
      (m.clockwork.elapse now).withService name (Timed.ofService m.stopBehavior s') := by
  unfold Machine.clockwork Machine.withService Clockwork.elapse Clockwork.withService
  simp only [NameMap.mapValues_put, ← Timed.ofService_refresh, current]

/-- To bring a service up to date changes nothing under the clock. -/
theorem elapse_touched (h : m.services.find? name = some s) (operation : Operation) :
    (m.touched operation now name s).clockwork.elapse now = m.clockwork.elapse now := by
  have current := s.refresh_refresh (Nat.le_refl now) m.stopBehavior
  have put : (m.touched operation now name s).clockwork.elapse now = _ := elapse_withService (m := m) current
  have there : (m.clockwork.elapse now).services.put name _ = _ := NameMap.put_of_find? (find?_elapsed_some h)
  rw [put, Clockwork.withService, there]

end Elapsed

/-! ## One demand -/

/-- A machine answers as told, and has the clockwork that is told. -/
def Meets {α : Type} (now : Nat) (x : Ask α) (m : Machine) (told : Except ServiceError α × Clockwork) : Prop :=
  ∃ m', Answers x m told.1 m' ∧ m'.clockwork.elapse now = told.2

section Meets

variable {m : Machine} {now : Nat} {name : String}

theorem create_meets (spec : ServiceSpec) : Meets now (create spec) m ((m.clockwork.elapse now).create spec) := by
  unfold Clockwork.create
  cases h : m.services.find? spec.name with
  | some s =>
    rw [find?_elapsed_some h]
    exact ⟨_, create_taken h, rfl⟩
  | none =>
    rw [find?_elapsed_none h]
    refine ⟨_, create_free h, ?_⟩
    have put : (m.withService spec.name { spec }).clockwork.elapse now = _ :=
      elapse_withService (rests_stopped rfl now m.stopBehavior)
    rw [Timed.ofService_stopped _ rfl] at put
    exact put

/-- What is asked of a service is refused where there is none. -/
theorem withEntry_meets {α : Type} {x : Ask α} {operation : Operation}
    {f : Timed → Except ServiceError α × Clockwork}
    (absent : m.services.find? name = none → Answers x m (.error (.notInstalled name)) (m.asked operation))
    (found : ∀ s, m.services.find? name = some s →
      Meets now x m (f (Timed.ofService m.stopBehavior (s.refresh now m.stopBehavior)))) :
    Meets now x m ((m.clockwork.elapse now).withEntry name f) := by
  unfold Clockwork.withEntry
  cases h : m.services.find? name with
  | none =>
    rw [find?_elapsed_none h]
    exact ⟨_, absent h, rfl⟩
  | some s =>
    rw [find?_elapsed_some h]
    exact found s h

theorem openEntry_meets : Meets now (openEntry name) m
    ((m.clockwork.elapse now).withEntry name fun _ => (.ok name, m.clockwork.elapse now)) :=
  withEntry_meets openEntry_absent fun _ h => ⟨_, openEntry_found h, rfl⟩

theorem query_meets : Meets now (query now name) m
    ((m.clockwork.elapse now).withEntry name fun t => (.ok t.service.status, m.clockwork.elapse now)) :=
  withEntry_meets query_absent fun _ h => ⟨_, query_found h, elapse_touched h .query⟩

theorem start_meets : Meets now (start now name) m ((m.clockwork.elapse now).start name) := by
  refine withEntry_meets start_absent fun s h => ?_
  have refused (going : (s.refresh now m.stopBehavior).phase ≠ .stopped) :
      Meets now (start now name) m (.error alreadyRunning, m.clockwork.elapse now) :=
    ⟨_, start_unstopped h going, elapse_touched h .start⟩
  show Meets _ _ _ (match (s.refresh now m.stopBehavior).phase with
    | .stopped => _
    | .running _ | .stopping .. => _)
  cases phase : (s.refresh now m.stopBehavior).phase with
  | running pid => exact refused (by rw [phase]; exact nofun)
  | stopping pid since => exact refused (by rw [phase]; exact nofun)
  | stopped =>
    refine ⟨_, start_stopped h phase, ?_⟩
    let launched : Service := { s with phase := .running m.nextPid, starts := s.starts + 1 }
    have put : (m.withService name launched).clockwork.elapse now = _ :=
      elapse_withService (rests_running rfl now m.stopBehavior)
    rw [Timed.ofService_running _ rfl] at put
    exact congrArg (fun k : Clockwork => { k with nextPid := m.nextPid + 1 }) put

/-- A running service that is asked to stop. -/
theorem stopping_meets {s : Service} {pid : Nat} (h : m.services.find? name = some s)
    (running : (s.refresh now m.stopBehavior).phase = .running pid) :
    Meets now (control now name .stop) m
      (if m.stopBehavior = .reject then (.error notValid, m.clockwork.elapse now)
      else
        let t := (Timed.ofService m.stopBehavior (s.refresh now m.stopBehavior)).stopping m.stopBehavior pid now
        (.ok t.service.status, (m.clockwork.elapse now).withService name t)) := by
  by_cases rejects : m.stopBehavior = .reject
  · rw [if_pos rejects]
    exact ⟨_, control_stop_rejected h running rejects, elapse_touched h .control⟩
  · rw [if_neg rejects]
    have timed : Timed.ofService m.stopBehavior { s with phase := (Phase.stopping pid now).refresh now m.stopBehavior } =
        (Timed.ofService m.stopBehavior (s.refresh now m.stopBehavior)).stopping m.stopBehavior pid now :=
      Timed.ofService_stopping m.stopBehavior pid now (s.refresh now m.stopBehavior)
    have current := Service.refresh_refresh (Nat.le_refl now) m.stopBehavior { s with phase := .stopping pid now }
    rw [← timed]
    exact ⟨_, control_stop_accepted h running rejects, elapse_withService (m := m) current⟩

theorem control_meets (signal : ControlSignal) :
    Meets now (control now name signal) m ((m.clockwork.elapse now).control now name signal) := by
  refine withEntry_meets (fun h => control_absent h signal) fun s h => ?_
  cases signal with
  | interrogate => exact ⟨_, control_interrogate h, elapse_touched h .control⟩
  | stop =>
    show Meets _ _ _ (match (s.refresh now m.stopBehavior).phase with
      | .stopped => _
      | .stopping .. => _
      | .running pid => _)
    cases phase : (s.refresh now m.stopBehavior).phase with
    | stopped => exact ⟨_, control_stop_stopped h phase, elapse_touched h .control⟩
    | stopping pid since => exact ⟨_, control_stop_stopping h phase, elapse_touched h .control⟩
    | running pid => exact stopping_meets h phase
  | _ => exact ⟨_, control_other h (by decide) (by decide), elapse_touched h .control⟩

theorem setRecovery_meets (action : RecoveryAction) : Meets now (setRecovery now name action) m
    ((m.clockwork.elapse now).withEntry name fun t => (.ok (), (m.clockwork.elapse now).withService name
      { t with service := { t.service with recovery := action } })) := by
  refine withEntry_meets (fun h => setRecovery_absent h action) fun s h => ⟨_, setRecovery_found h action, ?_⟩
  have current := s.refresh_refresh (Nat.le_refl now) m.stopBehavior
  exact elapse_withService (m := m) (congrArg (fun s : Service => { s with recovery := action }) current)

theorem delete_meets : Meets now (delete name) m ((m.clockwork.elapse now).delete name) := by
  unfold Clockwork.delete
  cases fails : m.failsDelete with
  | true =>
    rw [if_pos (by exact fails)]
    exact ⟨_, delete_refused fails, rfl⟩
  | false =>
    rw [if_neg (by exact Bool.eq_false_iff.1 fails)]
    refine withEntry_meets (delete_absent fails) fun s h => ⟨_, delete_found fails h, ?_⟩
    unfold Machine.clockwork Clockwork.elapse
    simp only [NameMap.mapValues_erase]
    rfl

/-- **A machine and its clockwork answer a demand alike**, and go on alike. -/
theorem ask_meets (m : Machine) (now : Nat) (d : Demand) :
    (m.clockwork.elapse now).serve now d =
      (((d.ask now).run m).1, ((d.ask now).run m).2.clockwork.elapse now) := by
  have told {α : Type} {x : Ask α} {r : Except ServiceError α} {k : Clockwork} (answer : Except ServiceError α → Answer)
      (meets : Meets now x m (r, k)) :
      (answer r, k) = (((answer <$> x.run).run m).1, ((answer <$> x.run).run m).2.clockwork.elapse now) := by
    obtain ⟨m', answers, elapsed⟩ := meets
    rw [StateT.run_map, answers]
    exact congrArg (Prod.mk _) elapsed.symm
  cases d with
  | create spec => exact told .entry (create_meets spec)
  | openEntry name => exact told .entry openEntry_meets
  | query name => exact told .status query_meets
  | start name => exact told .done start_meets
  | control name signal => exact told .status (control_meets signal)
  | setRecovery name action => exact told .done (setRecovery_meets action)
  | delete name => exact told .done delete_meets
  | service name =>
    show (Answer.service _, _) =
      (Answer.service ((service now name).run m).1, ((service now name).run m).2.clockwork.elapse now)
    cases h : m.services.find? name with
    | none =>
      rw [service_absent h, find?_elapsed_none h]
      rfl
    | some s =>
      rw [service_found h, find?_elapsed_some h]
      exact congrArg (Prod.mk _) (elapse_touched h .query).symm

end Meets

/-! ## All demands -/

/-- Those of a list that are kept, one word for each. -/
def thin {α : Type} : List Bool → List α → List α
  | true :: kept, a :: as => a :: thin kept as
  | false :: kept, _ :: as => thin kept as
  | _, _ => []

theorem thin_sublist {α : Type} : ∀ (kept : List Bool) (as : List α), (thin kept as).Sublist as
  | true :: kept, _ :: as => (thin_sublist kept as).cons_cons _
  | false :: kept, _ :: as => (thin_sublist kept as).cons _
  | [], as => List.nil_sublist as
  | true :: _, [] | false :: _, [] => List.nil_sublist []

/-- **What only looks may be left out.** -/
theorem Clockwork.answers_thin (k : Clockwork) {calls : List (Nat × Demand)} (ordered : calls.Pairwise (·.1 ≤ ·.1))
    {kept : List Bool} (each : kept.length = calls.length)
    (looks : ∀ call ∈ thin (kept.map not) calls, call.2.looks = true) :
    k.answers (thin kept calls) = thin kept (k.answers calls) := by
  induction calls generalizing k kept with
  | nil =>
    obtain rfl := List.length_eq_zero_iff.1 each
    rfl
  | cons call calls ih =>
    obtain ⟨now, d⟩ := call
    obtain ⟨later, rest⟩ := List.pairwise_cons.1 ordered
    match kept with
    | true :: kept =>
      exact congrArg (_ :: ·) (ih _ rest (Nat.succ.inj each) looks)
    | false :: kept =>
      have same : ((k.elapse now).serve now d).2 = k.elapse now :=
        Clockwork.serve_looks _ now (looks (now, d) List.mem_cons_self)
      show k.answers (thin kept calls) = thin kept (((k.elapse now).serve now d).2.answers calls)
      rw [same, ← ih _ rest (Nat.succ.inj each) fun call h => looks call (List.mem_cons_of_mem _ h)]
      exact (k.answers_elapse fun call h => later call ((thin_sublist kept calls).subset h)).symm

theorem answers_clockwork (m : Machine) {calls : List (Nat × Demand)} (ordered : calls.Pairwise (·.1 ≤ ·.1)) :
    m.answers calls = m.clockwork.answers calls := by
  induction calls generalizing m with
  | nil => rfl
  | cons call calls ih =>
    obtain ⟨now, d⟩ := call
    obtain ⟨later, rest⟩ := List.pairwise_cons.1 ordered
    show ((d.ask now).run m).1 :: ((d.ask now).run m).2.answers calls =
      ((m.clockwork.elapse now).serve now d).1 :: ((m.clockwork.elapse now).serve now d).2.answers calls
    rw [ask_meets, ih _ rest, Clockwork.answers_elapse _ later]

/-- **A machine answers as one whose services stop on time**, whatever it is asked and when, though it finds out only when
it looks; and what only looks at services changes no other answer. -/
theorem answers_eager (m : Machine) {calls : List (Nat × Demand)} (ordered : calls.Pairwise (·.1 ≤ ·.1)) :
    m.answers calls = m.clockwork.answers calls ∧
    ∀ kept : List Bool, kept.length = calls.length → (∀ call ∈ thin (kept.map not) calls, call.2.looks = true) →
      m.answers (thin kept calls) = thin kept (m.answers calls) := by
  refine ⟨answers_clockwork m ordered, fun kept each looks => ?_⟩
  rw [answers_clockwork m ordered, answers_clockwork m (ordered.sublist (thin_sublist kept calls))]
  exact m.clockwork.answers_thin ordered each looks

/-- A service that stops a quarter of a second after it is asked to, looked at on the way. -/
theorem answers_eager_started_again :
    let m : Machine := {}
    let calls := [(0, Demand.create { name := "svcA" }), (0, .start "svcA"), (100, .control "svcA" .stop),
      (349, .query "svcA"), (350, .service "svcA"), (350, .start "svcA"), (350, .query "svcA")]
    m.answers calls = [.entry (.ok "svcA"), .done (.ok ()), .status (.ok ⟨.stopPending, 1000⟩),
      .status (.ok ⟨.stopPending, 1000⟩), .service (some { spec := { name := "svcA" }, starts := 1 }), .done (.ok ()),
      .status (.ok ⟨.running, 1001⟩)] ∧
    m.answers (thin [true, true, true, false, false, true, true] calls) = [.entry (.ok "svcA"), .done (.ok ()),
      .status (.ok ⟨.stopPending, 1000⟩), .done (.ok ()), .status (.ok ⟨.running, 1001⟩)] := by
  intro m calls
  have ordered : calls.Pairwise (·.1 ≤ ·.1) := by simp [calls]
  obtain ⟨eager, thinned⟩ := answers_eager m ordered
  have each := thinned [true, true, true, false, false, true, true] rfl (by simp [calls, thin, Demand.looks])
  rw [each, eager]
  simp [m, calls, thin, Machine.clockwork, Clockwork.answers, Clockwork.serve, Clockwork.elapse, Clockwork.create,
    Clockwork.start, Clockwork.control, Clockwork.withEntry, Clockwork.withService, NameMap.mapValues, NameMap.find?,
    NameMap.put, Timed.elapse, Timed.stopping, Timed.stopped, Service.status, Phase.status]

end ServiceControl.Memory
