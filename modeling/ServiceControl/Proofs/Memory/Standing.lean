import ServiceControl.Memory.Gateway
import ServiceControl.Proofs.Memory.Asks
import ServiceControl.Proofs.Promises
/-!
# Where a machine stands

What a controller holds of a machine, and what is registered there.  Most of what a machine is asked has to do with neither
(`Machine.Tends`); of the rest, each call says what it changes.  What is held can be told from the events that the machine
remembers, in an order in which nothing is given back that is not held (`Hold.next`).
-/
namespace ServiceControl.Memory

/-! ## What is held -/

/-- Nothing, a session, or a session and an entry that was opened in it. -/
inductive Hold
  | nothing
  | session
  | entry
  deriving DecidableEq, Repr

namespace Hold

def sessions : Hold → Nat
  | nothing => 0
  | _ => 1

def entries : Hold → Nat
  | entry => 1
  | _ => 0

/-- What is held after an event, if the event is in order.  A log source is removed with nothing held. -/
def next : Hold → Event → Option Hold
  | nothing, .asked _ => some nothing
  | h, .asked operation => if operation = .removeLogSource then none else some h
  | nothing, .sessionOpened => some session
  | session, .entryOpened => some entry
  | entry, .entryClosed => some session
  | session, .sessionClosed => some nothing
  | _, _ => none

/-- What is held after some events, the earliest first. -/
def after (h : Hold) (es : List Event) : Option Hold := es.foldlM next h

theorem after_append {h h' : Hold} {es : List Event} (first : h.after es = some h') (es' : List Event) :
    h.after (es ++ es') = h'.after es' := by
  unfold after at first ⊢
  rw [List.foldlM_append, first]
  rfl

theorem next_asked (h : Hold) {operation : Operation} (allowed : operation ≠ .removeLogSource) :
    h.next (.asked operation) = some h := by
  cases h with
  | nothing => rfl
  | _ => exact if_neg allowed

theorem after_asked (h : Hold) {operations : List Operation} (allowed : .removeLogSource ∉ operations) :
    h.after (operations.map .asked) = some h := by
  induction operations with
  | nil => rfl
  | cons operation operations ih =>
    obtain ⟨first, rest⟩ := not_or.1 (mt List.mem_cons.2 allowed)
    unfold after at ih ⊢
    rw [List.map_cons, List.foldlM_cons, next_asked h (Ne.symm first)]
    exact ih rest

end Hold

/-! ## What is registered -/

/-- The names under which there is an entry, and those under which there is a log source. -/
@[ext]
structure Roll where
  installed : String → Bool
  sourced : String → Bool

namespace Roll

def enter (ρ : Roll) (name : String) : Roll := { ρ with installed := fun n => n == name || ρ.installed n }

def strike (ρ : Roll) (name : String) : Roll := { ρ with installed := fun n => n != name && ρ.installed n }

def source (ρ : Roll) (name : String) : Roll := { ρ with sourced := fun n => n == name || ρ.sourced n }

def unsource (ρ : Roll) (name : String) : Roll := { ρ with sourced := fun n => n != name && ρ.sourced n }

end Roll

namespace Machine

def roll (m : Machine) : Roll := ⟨m.isInstalled, m.hasLogSource⟩

theorem roll_put (m : Machine) (name : String) (s : Service) : (m.withService name s).roll = m.roll.enter name :=
  Roll.ext (funext fun other => NameMap.has_put name other s m.services) rfl

/-- To put a service that is there registers nothing. -/
theorem roll_update {m : Machine} {name : String} (found : m.isInstalled name = true) (s : Service) :
    (m.withService name s).roll = m.roll := by
  refine (m.roll_put name s).trans (Roll.ext (funext fun other => ?_) rfl)
  show (other == name || m.isInstalled other) = m.isInstalled other
  by_cases ho : other = name
  · rw [ho, found, Bool.or_true]
  · rw [beq_eq_false_iff_ne.2 ho, Bool.false_or]

theorem roll_erase (m : Machine) (name : String) :
    { m with services := m.services.erase name }.roll = m.roll.strike name :=
  Roll.ext (funext fun other => NameMap.has_erase name other m.services) rfl

theorem roll_source (m : Machine) (name : String) :
    { m with logSources := name :: m.logSources }.roll = m.roll.source name :=
  Roll.ext rfl (funext fun _ => List.contains_cons)

theorem roll_unsource (m : Machine) (name : String) :
    { m with logSources := m.logSources.filter (· ≠ name) }.roll = m.roll.unsource name := by
  refine Roll.ext rfl (funext fun other => ?_)
  show (m.logSources.filter (· ≠ name)).contains other = (other != name && m.logSources.contains other)
  rw [Bool.eq_iff_iff]
  simp [and_comm]

/-! ## What has to do with neither -/

/-- **Nothing is registered and nothing is held or given back**: the machine was asked something and has looked after its
services. -/
structure Tends (m m' : Machine) : Prop where
  roll : m'.roll = m.roll
  sessions : m'.openSessions = m.openSessions
  entries : m'.openEntries = m.openEntries
  history : ∃ operations : List Operation, .removeLogSource ∉ operations ∧
    m'.history = (operations.map Event.asked).reverse ++ m.history

namespace Tends

theorem refl (m : Machine) : m.Tends m := ⟨rfl, rfl, rfl, [], List.not_mem_nil, rfl⟩

theorem asked {m : Machine} {operation : Operation} (allowed : operation ≠ .removeLogSource) :
    m.Tends (m.asked operation) :=
  ⟨rfl, rfl, rfl, [operation], fun h => allowed (List.mem_singleton.1 h).symm, rfl⟩

end Tends

/-- What is asked of an entry: it is remembered, and a service that is there may be put in another condition. -/
inductive Visits (operation : Operation) (name : String) (m : Machine) : Machine → Prop
  | absent : Visits operation name m (m.asked operation)
  | found {s : Service} (found : m.services.find? name = some s) (s' : Service) (nextPid : Nat) :
      Visits operation name m { (m.asked operation).withService name s' with nextPid }

end Machine

open Machine (Tends)

section Asks

variable {m : Machine} {name : String} {now : Nat} {operation : Operation}

theorem query_visits (now : Nat) (m : Machine) (name : String) :
    ∃ r m', Answers (query now name) m r m' ∧ m.Visits .query name m' := by
  cases h : m.services.find? name with
  | none => exact ⟨_, _, query_absent h, .absent⟩
  | some s => exact ⟨_, _, query_found h, .found h _ m.nextPid⟩

theorem start_visits (now : Nat) (m : Machine) (name : String) :
    ∃ r m', Answers (start now name) m r m' ∧ m.Visits .start name m' := by
  cases h : m.services.find? name with
  | none => exact ⟨_, _, start_absent h, .absent⟩
  | some s =>
    by_cases stopped : (s.refresh now m.stopBehavior).phase = .stopped
    · exact ⟨_, _, start_stopped h stopped, .found h _ (m.nextPid + 1)⟩
    · exact ⟨_, _, start_unstopped h stopped, .found h _ m.nextPid⟩

theorem control_visits (now : Nat) (m : Machine) (name : String) (signal : ControlSignal) :
    ∃ r m', Answers (control now name signal) m r m' ∧ m.Visits .control name m' := by
  cases h : m.services.find? name with
  | none => exact ⟨_, _, control_absent h signal, .absent⟩
  | some s =>
    have touched : m.Visits .control name (m.touched .control now name s) := .found h _ m.nextPid
    by_cases hi : signal = .interrogate
    · subst hi
      exact ⟨_, _, control_interrogate h, touched⟩
    by_cases hs : signal = .stop
    · subst hs
      cases hp : (s.refresh now m.stopBehavior).phase with
      | stopped => exact ⟨_, _, control_stop_stopped h hp, touched⟩
      | stopping pid since => exact ⟨_, _, control_stop_stopping h hp, touched⟩
      | running pid =>
        by_cases hb : m.stopBehavior = .reject
        · exact ⟨_, _, control_stop_rejected h hp hb, touched⟩
        · exact ⟨_, _, control_stop_accepted h hp hb, .found h _ m.nextPid⟩
    · exact ⟨_, _, control_other h hi hs, touched⟩

theorem setRecovery_visits (now : Nat) (m : Machine) (name : String) (action : RecoveryAction) :
    ∃ r m', Answers (setRecovery now name action) m r m' ∧ m.Visits .setRecovery name m' := by
  cases h : m.services.find? name with
  | none => exact ⟨_, _, setRecovery_absent h action, .absent⟩
  | some s => exact ⟨_, _, setRecovery_found h action, .found h _ m.nextPid⟩

theorem visits_tend {α : Type} {ask : Ask α} (allowed : operation ≠ .removeLogSource)
    (h : ∃ r m', Answers ask m r m' ∧ m.Visits operation name m') : ∃ r m', Answers ask m r m' ∧ m.Tends m' := by
  obtain ⟨r, _, answers, visits⟩ := h
  cases visits with
  | absent => exact ⟨r, _, answers, .asked allowed⟩
  | found found s' nextPid =>
    have hroll : ((m.asked operation).withService name s').roll = m.roll :=
      Machine.roll_update (m := m) (isInstalled_of_find? found) s'
    exact ⟨r, _, answers, hroll, rfl, rfl, (Tends.asked allowed).history⟩

theorem terminate_tends (m : Machine) (pid : Nat) : ∃ r m', Answers (terminate pid) m r m' ∧ m.Tends m' := by
  cases h : List.find? (fun entry => entry.2.hasProcess pid) m.services with
  | none => exact ⟨_, _, terminate_unknown h, .refl m⟩
  | some entry =>
    obtain ⟨name, s⟩ := entry
    have installed : m.isInstalled name = true := NameMap.has_of_mem (List.mem_of_find?_eq_some h)
    exact ⟨_, _, terminate_found h, Machine.roll_update (m := m) installed _, rfl, rfl, (Tends.refl m).history⟩

theorem takeScript_tends (m : Machine) : ∃ r m', Answers takeScript m r m' ∧ m.Tends m' :=
  ⟨_, _, takeScript_answers, rfl, rfl, rfl, (Tends.asked (by decide)).history⟩

theorem takeFault_tends (m : Machine) : ∃ r m', Answers takeFault m r m' ∧ m.Tends m' :=
  ⟨_, _, takeFault_answers, rfl, rfl, rfl, (Tends.refl m).history⟩

theorem keepReport_tends (m : Machine) (report : StatusReport) : m.Tends ((keepReport report).run m).2 :=
  ⟨rfl, rfl, rfl, (Tends.refl m).history⟩

end Asks

/-! ## Standing -/

/-- **Since it was as before, the machine was treated in order**: this is held of it now, and this is registered. -/
structure Stands (before : Machine) (hold : Hold) (ρ : Roll) (σ : Sight Machine) : Prop where
  events : ∃ es, Hold.nothing.after es = some hold ∧ σ.held.history = es.reverse ++ before.history
  sessions : σ.held.openSessions = hold.sessions
  entries : σ.held.openEntries = hold.entries
  roll : σ.held.roll = ρ

namespace Stands

variable {before : Machine} {hold hold' : Hold} {ρ ρ' : Roll} {σ : Sight Machine} {m : Machine} {now : Nat}

/-- Where nothing is held, things are in order. -/
theorem start (σ : Sight Machine) (sessions : σ.held.openSessions = 0) (entries : σ.held.openEntries = 0) :
    Stands σ.held .nothing σ.held.roll σ :=
  ⟨⟨[], rfl, rfl⟩, sessions, entries, rfl⟩

theorem tends (h : Stands before hold ρ σ) (t : σ.held.Tends m) : Stands before hold ρ ⟨now, m⟩ := by
  obtain ⟨⟨es, hes, hhistory⟩, hsessions, hentries, hroll⟩ := h
  obtain ⟨operations, allowed, hop⟩ := t.history
  refine ⟨⟨es ++ operations.map .asked, ?_, ?_⟩, t.sessions.trans hsessions, t.entries.trans hentries,
    t.roll.trans hroll⟩
  · rw [Hold.after_append hes]
    exact hold.after_asked allowed
  · rw [hop, hhistory, List.reverse_append, List.append_assoc]

/-- One event more. -/
theorem event (h : Stands before hold ρ σ) {e : Event} (inOrder : hold.next e = some hold')
    (history : m.history = e :: σ.held.history) (sessions : m.openSessions = hold'.sessions)
    (entries : m.openEntries = hold'.entries) (roll : m.roll = ρ') : Stands before hold' ρ' ⟨now, m⟩ := by
  obtain ⟨es, hes, hhistory⟩ := h.events
  refine ⟨⟨es ++ [e], ?_, ?_⟩, sessions, entries, roll⟩
  · rw [Hold.after_append hes]
    show (hold.next e).bind some = some hold'
    rw [inOrder]
    rfl
  · rw [history, hhistory, List.reverse_append]
    rfl

/-- What is not remembered in this way may change. -/
theorem retime (h : Stands before hold ρ σ) {σ' : Sight Machine} (same : σ'.held = σ.held) :
    Stands before hold ρ σ' := by
  obtain ⟨now', m'⟩ := σ'
  obtain rfl : m' = σ.held := same
  exact h.tends (.refl _)

end Stands

/-! ## Calls -/

section Calls

open Cell (Ensures Yields Leads)

variable {γ α : Type} {cell : Cell γ Machine} (lawful : cell.Lawful) {before : Machine} {hold : Hold} {ρ : Roll}
include lawful

theorem onMachine_ensures {f : StateM Machine α} {P : Sight Machine → Prop} {Q : α → Sight Machine → Prop}
    (h : ∀ σ, P σ → Q (f.run σ.held).1 ⟨σ.now, (f.run σ.held).2⟩) : cell.Ensures P (onMachine cell f) Q :=
  .of_leads fun σ hσ => ⟨_, _, Leads.takeFrom lawful f.run, h σ hσ⟩

theorem asking_yields {ask : Ask α} {P : Sight Machine → Prop} {Q : Except ServiceError α → Sight Machine → Prop}
    (h : ∀ σ, P σ → ∃ r m', Answers ask σ.held r m' ∧ Q r ⟨σ.now, m'⟩) : cell.Yields P (asking cell ask) Q := by
  refine onMachine_ensures lawful ?_
  intro σ hσ
  obtain ⟨r, m', ha, hQ⟩ := h σ hσ
  rw [show ask.run.run σ.held = (r, m') from ha]
  exact hQ

theorem askingNow_yields {ask : Nat → Ask α} {P : Sight Machine → Prop}
    {Q : Except ServiceError α → Sight Machine → Prop}
    (h : ∀ σ, P σ → ∃ r m', Answers (ask σ.now) σ.held r m' ∧ Q r ⟨σ.now, m'⟩) :
    cell.Yields P (askingNow cell ask) Q := by
  refine Yields.now.bind_ok ?_
  intro now
  refine asking_yields lawful ?_
  rintro σ ⟨rfl, hσ⟩
  exact h σ hσ

theorem asking_tends {ask : Ask α} (h : ∀ m, ∃ r m', Answers ask m r m' ∧ m.Tends m') :
    cell.Yields (Stands before hold ρ) (asking cell ask) fun _ => Stands before hold ρ := by
  refine asking_yields lawful ?_
  intro σ hσ
  obtain ⟨r, m', ha, ht⟩ := h σ.held
  exact ⟨r, m', ha, hσ.tends ht⟩

theorem askingNow_tends {ask : Nat → Ask α} (h : ∀ now m, ∃ r m', Answers (ask now) m r m' ∧ m.Tends m') :
    cell.Yields (Stands before hold ρ) (askingNow cell ask) fun _ => Stands before hold ρ := by
  refine askingNow_yields lawful ?_
  intro σ hσ
  obtain ⟨r, m', ha, ht⟩ := h σ.now σ.held
  exact ⟨r, m', ha, hσ.tends ht⟩

theorem connect_stands : cell.Yields (Stands before .nothing ρ) (gateway cell).connect fun r => match r with
    | .ok _ => Stands before .session ρ
    | .error e => fun σ => e = .permissionDenied ∧ Stands before .nothing ρ σ := by
  refine asking_yields lawful ?_
  intro σ hσ
  have asked : Stands before .nothing ρ ⟨σ.now, σ.held.asked .connect⟩ := hσ.tends (.asked (by decide))
  cases h : σ.held.deniesAccess with
  | true => exact ⟨_, _, connect_denied h, rfl, asked⟩
  | false => exact ⟨_, _, connect_granted h, asked.event rfl rfl (congrArg (· + 1) hσ.sessions) hσ.entries hσ.roll⟩

theorem closeSession_stands :
    cell.Ensures (Stands before .session ρ) ((gateway cell).closeSession ()) fun _ => Stands before .nothing ρ := by
  refine onMachine_ensures lawful ?_
  intro σ hσ
  exact hσ.event rfl rfl (congrArg (· - 1) hσ.sessions) hσ.entries hσ.roll

theorem openEntry_stands (name : String) :
    cell.Yields (Stands before .session ρ) ((gateway cell).openEntry () name) fun r => match r with
      | .ok entry => fun σ => entry = name ∧ ρ.installed name = true ∧ Stands before .entry ρ σ
      | .error e => fun σ => e = .notInstalled name ∧ ρ.installed name = false ∧ Stands before .session ρ σ := by
  refine asking_yields lawful ?_
  intro σ hσ
  have asked : Stands before .session ρ ⟨σ.now, σ.held.asked .openEntry⟩ := hσ.tends (.asked (by decide))
  have hinstalled : σ.held.isInstalled name = ρ.installed name := by rw [← hσ.roll, Machine.roll]
  cases h : σ.held.services.find? name with
  | none => exact ⟨_, _, openEntry_absent h, rfl, by rw [← hinstalled, isInstalled_of_absent h], asked⟩
  | some s =>
    refine ⟨_, _, openEntry_found h, rfl, by rw [← hinstalled, isInstalled_of_find? h], ?_⟩
    exact asked.event rfl rfl hσ.sessions (congrArg (· + 1) hσ.entries) hσ.roll

theorem closeEntry_stands (entry : String) :
    cell.Ensures (Stands before .entry ρ) ((gateway cell).closeEntry entry) fun _ => Stands before .session ρ := by
  refine onMachine_ensures lawful ?_
  intro σ hσ
  exact hσ.event rfl rfl hσ.sessions (congrArg (· - 1) hσ.entries) hσ.roll

theorem create_stands (spec : ServiceSpec) :
    cell.Yields (Stands before .session ρ) ((gateway cell).create () spec) fun r => match r with
      | .ok entry => fun σ => entry = spec.name ∧ ρ.installed spec.name = false ∧
        Stands before .entry (ρ.enter spec.name) σ
      | .error e => fun σ => e = .alreadyExists spec.name ∧ Stands before .session ρ σ := by
  refine asking_yields lawful ?_
  intro σ hσ
  have asked : Stands before .session ρ ⟨σ.now, σ.held.asked .create⟩ := hσ.tends (.asked (by decide))
  have hinstalled : σ.held.isInstalled spec.name = ρ.installed spec.name := by rw [← hσ.roll, Machine.roll]
  cases h : σ.held.services.find? spec.name with
  | none =>
    refine ⟨_, _, create_free h, rfl, by rw [← hinstalled, isInstalled_of_absent h], ?_⟩
    refine asked.event rfl rfl hσ.sessions (congrArg (· + 1) hσ.entries) ?_
    rw [← hσ.roll]
    exact σ.held.roll_put spec.name { spec }
  | some s => exact ⟨_, _, create_taken h, rfl, asked⟩

theorem delete_stands (name : String) :
    cell.Yields (Stands before hold ρ) ((gateway cell).delete name) fun r => match r with
      | .ok _ => Stands before hold (ρ.strike name)
      | .error e => fun σ => (e = markedForDeletion ∨ e = .notInstalled name) ∧ Stands before hold ρ σ := by
  refine asking_yields lawful ?_
  intro σ hσ
  have asked : Stands before hold ρ ⟨σ.now, σ.held.asked .delete⟩ := hσ.tends (.asked (by decide))
  cases hf : σ.held.failsDelete with
  | true => exact ⟨_, _, delete_refused hf, .inl rfl, asked⟩
  | false =>
    cases h : σ.held.services.find? name with
    | none => exact ⟨_, _, delete_absent hf h, .inr rfl, asked⟩
    | some s =>
      refine ⟨_, _, delete_found hf h, asked.events, asked.sessions, asked.entries, ?_⟩
      rw [← asked.roll]
      exact (σ.held.asked .delete).roll_erase name

theorem registerLogSource_stands (name : String) :
    cell.Yields (Stands before hold ρ) ((gateway cell).registerLogSource name) fun r => match r with
      | .ok _ => fun σ => ρ.sourced name = false ∧ Stands before hold (ρ.source name) σ
      | .error _ => Stands before hold ρ := by
  refine asking_yields lawful ?_
  intro σ hσ
  have asked : Stands before hold ρ ⟨σ.now, σ.held.asked .registerLogSource⟩ := hσ.tends (.asked (by decide))
  cases h : σ.held.failsLogRegistration || σ.held.hasLogSource name with
  | true => exact ⟨_, _, registerLogSource_refused h, asked⟩
  | false =>
    refine ⟨_, _, registerLogSource_granted h, ?_, asked.events, asked.sessions, asked.entries, ?_⟩
    · rw [← hσ.roll]
      exact (Bool.or_eq_false_iff.1 h).2
    · rw [← asked.roll]
      exact (σ.held.asked .registerLogSource).roll_source name

/-- A log source is removed with nothing held. -/
theorem removeLogSource_stands (name : String) :
    cell.Yields (Stands before .nothing ρ) ((gateway cell).removeLogSource name) fun r => match r with
      | .ok _ => fun σ => ρ.sourced name = true ∧ Stands before .nothing (ρ.unsource name) σ
      | .error _ => Stands before .nothing ρ := by
  refine asking_yields lawful ?_
  intro σ hσ
  have asked : Stands before .nothing ρ ⟨σ.now, σ.held.asked .removeLogSource⟩ :=
    hσ.event rfl rfl hσ.sessions hσ.entries hσ.roll
  cases h : σ.held.failsLogRemoval || !σ.held.hasLogSource name with
  | true => exact ⟨_, _, removeLogSource_refused h, asked⟩
  | false =>
    refine ⟨_, _, removeLogSource_granted h, ?_, asked.events, asked.sessions, asked.entries, ?_⟩
    · rw [← hσ.roll]
      have present := (Bool.or_eq_false_iff.1 h).2
      rwa [Bool.not_eq_false'] at present
    · rw [← asked.roll]
      exact (σ.held.asked .removeLogSource).roll_unsource name

theorem query_stands (entry : String) :
    cell.Yields (Stands before hold ρ) ((gateway cell).query entry) fun _ => Stands before hold ρ :=
  askingNow_tends lawful fun now m => visits_tend (by decide) (query_visits now m entry)

theorem start_stands (entry : String) :
    cell.Yields (Stands before hold ρ) ((gateway cell).start entry) fun _ => Stands before hold ρ :=
  askingNow_tends lawful fun now m => visits_tend (by decide) (start_visits now m entry)

theorem control_stands (entry : String) (signal : ControlSignal) :
    cell.Yields (Stands before hold ρ) ((gateway cell).control entry signal) fun _ => Stands before hold ρ :=
  askingNow_tends lawful fun now m => visits_tend (by decide) (control_visits now m entry signal)

theorem setRecovery_stands (entry : String) (action : RecoveryAction) :
    cell.Yields (Stands before hold ρ) ((gateway cell).setRecovery entry action) fun _ => Stands before hold ρ :=
  askingNow_tends lawful fun now m => visits_tend (by decide) (setRecovery_visits now m entry action)

end Calls

end ServiceControl.Memory
