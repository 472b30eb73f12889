import ServiceControl.Proofs.Memory.Asks
/-!
# Traces of the memory manager

Everything that can be done with a machine, one request after another, from an empty one.  What a request does to the
processes is told by the ledger of a machine, which it changes in one of six ways (`Change`).
-/
namespace ServiceControl.Memory

/-! ## Requests -/

/-- What a machine can be set to. -/
inductive Setting
  | deniesAccess (value : Bool)
  | failsLogRegistration (value : Bool)
  | failsLogRemoval (value : Bool)
  | failsDelete (value : Bool)
  | dispatchFault (reason : String)
  | stopBehavior (behavior : StopBehavior)
  | stopTimeout (ms : Nat)
  | script (signals : List ControlSignal)
  /-- What was asked is forgotten. -/
  | oblivion

def Machine.set (m : Machine) : Setting → Machine
  | .deniesAccess value => { m with deniesAccess := value }
  | .failsLogRegistration value => { m with failsLogRegistration := value }
  | .failsLogRemoval value => { m with failsLogRemoval := value }
  | .failsDelete value => { m with failsDelete := value }
  | .dispatchFault reason => { m with dispatchFault := some reason }
  | .stopBehavior behavior => { m with stopBehavior := behavior }
  | .stopTimeout ms => { m with stopTimeout := ms }
  | .script signals => { m with script := signals }
  | .oblivion => { m with history := [] }

/-- A request of an entry is one of its name, whatever is registered under that by then. -/
inductive Request
  | connect
  | closeSession
  | openEntry (name : String)
  | closeEntry
  | create (spec : ServiceSpec)
  | query (name : String)
  | start (name : String)
  | control (name : String) (signal : ControlSignal)
  | setRecovery (name : String) (action : RecoveryAction)
  | delete (name : String)
  | service (name : String)
  | terminate (pid : Nat)
  | registerLogSource (name : String)
  | removeLogSource (name : String)
  | takeScript
  | takeFault
  | keepReport (report : StatusReport)
  | set (setting : Setting)
  | pass (ms : Nat)

namespace Request

def ask (now : Nat) : Request → Ask Unit
  | connect => Memory.connect
  | closeSession => Memory.closeSession
  | openEntry name => do let _ ← Memory.openEntry name
  | closeEntry => Memory.closeEntry
  | create spec => do let _ ← Memory.create spec
  | query name => do let _ ← Memory.query now name
  | start name => Memory.start now name
  | control name signal => do let _ ← Memory.control now name signal
  | setRecovery name action => Memory.setRecovery now name action
  | delete name => Memory.delete name
  | service name => do let _ ← Memory.service now name
  | terminate pid => Memory.terminate pid
  | registerLogSource name => Memory.registerLogSource name
  | removeLogSource name => Memory.removeLogSource name
  | takeScript => do let _ ← Memory.takeScript
  | takeFault => Memory.takeFault
  | keepReport report => Memory.keepReport report
  | set setting => modify fun m => m.set setting
  | pass _ => return

def duration : Request → Nat
  | pass ms => ms
  | _ => 0

end Request

/-- A request and how it was answered. -/
abbrev Turn := Request × Except ServiceError Unit

namespace Turn

/-- A process was started. -/
def starts : Turn → Bool
  | (.start _, .ok _) => true
  | _ => false

/-- The process that was ended by force. -/
def ended : Turn → Option Nat
  | (.terminate pid, .ok _) => some pid
  | _ => none

end Turn

/-- What has been asked of a machine so far, the latest first, and what became of it. -/
structure Trace where
  turns : List Turn
  now : Nat
  machine : Machine

namespace Trace

def empty (now : Nat) : Trace := ⟨[], now, {}⟩

def serve (t : Trace) (r : Request) : Trace :=
  let (outcome, machine) := (r.ask t.now).run.run t.machine
  ⟨(r, outcome) :: t.turns, t.now + r.duration, machine⟩

def serveAll (t : Trace) (rs : List Request) : Trace := rs.foldl serve t

end Trace

/-! ## Ledgers -/

/-- What of a machine has to do with processes. -/
structure Ledger where
  services : NameMap Service
  nextPid : Nat
  terminated : List Nat

def Machine.ledger (m : Machine) : Ledger := ⟨m.services, m.nextPid, m.terminated⟩

/-- The process of a service, unless it has stopped. -/
def Phase.process? : Phase → Option Nat
  | .stopped => none
  | .running pid => some pid
  | .stopping pid _ => some pid

/-- **What a turn can do to a ledger.** -/
inductive Change (l : Ledger) : Turn → Ledger → Prop
  | none {t : Turn} (starts : t.starts = false) (ended : t.ended = .none) : Change l t l
  | updated {t : Turn} {name : String} {s s' : Service} (starts : t.starts = false) (ended : t.ended = .none)
      (found : l.services.find? name = some s) (spec : s'.spec = s.spec)
      (process : s'.phase = .stopped ∨ s'.phase.process? = s.phase.process?) :
      Change l t { l with services := l.services.put name s' }
  | created {t : Turn} {spec : ServiceSpec} (starts : t.starts = false) (ended : t.ended = .none)
      (free : l.services.find? spec.name = .none) :
      Change l t { l with services := l.services.put spec.name { spec } }
  | deleted {t : Turn} {name : String} (starts : t.starts = false) (ended : t.ended = .none) :
      Change l t { l with services := l.services.erase name }
  | started {name : String} {s s' : Service} (found : l.services.find? name = some s) (spec : s'.spec = s.spec)
      (phase : s'.phase = .running l.nextPid) :
      Change l (.start name, .ok ()) { l with services := l.services.put name s', nextPid := l.nextPid + 1 }
  | terminated {pid : Nat} {name : String} {s : Service}
      (found : List.find? (fun entry => entry.2.hasProcess pid) l.services = some (name, s)) :
      Change l (.terminate pid, .ok ())
        { l with services := l.services.put name { s with phase := .stopped }, terminated := pid :: l.terminated }

theorem Phase.refresh_cases (now : Nat) (b : StopBehavior) (p : Phase) :
    p.refresh now b = .stopped ∨ p.refresh now b = p := by
  cases b with
  | after delay =>
    cases p with
    | stopping pid since =>
      by_cases h : since + delay ≤ now
      · exact .inl (if_pos h)
      · exact .inr (if_neg h)
    | _ => exact .inr rfl
  | _ => exact .inr rfl

theorem refresh_process (s : Service) (now : Nat) (b : StopBehavior) :
    (s.refresh now b).phase = .stopped ∨ (s.refresh now b).phase.process? = s.phase.process? :=
  (s.phase.refresh_cases now b).imp_right (congrArg _)

theorem Answers.drop {α : Type} {x : Ask α} {m m' : Machine} {r : Except ServiceError α} (h : Answers x m r m') :
    Answers (do let _ ← x) m (r.map fun _ => ()) m' := by
  cases r with
  | ok a => exact h.bind (.pure _)
  | error e => exact h.bind_error

section Changes

variable {m : Machine} {name : String} {s : Service} {now : Nat} {operation : Operation}

/-- A turn that brings a service up to date and no more. -/
theorem Change.touched {t : Turn} (starts : t.starts = false) (ended : t.ended = Option.none)
    (found : m.services.find? name = some s) : Change m.ledger t (m.touched operation now name s).ledger :=
  .updated starts ended found rfl (refresh_process s now m.stopBehavior)

theorem start_change (now : Nat) (m : Machine) (name : String) :
    ∃ o m', Answers (start now name) m o m' ∧ Change m.ledger (.start name, o) m'.ledger := by
  cases h : m.services.find? name with
  | none => exact ⟨_, _, start_absent h, .none rfl rfl⟩
  | some s =>
    by_cases stopped : (s.refresh now m.stopBehavior).phase = .stopped
    · exact ⟨_, _, start_stopped h stopped, .started h rfl rfl⟩
    · exact ⟨_, _, start_unstopped h stopped, .touched rfl rfl h⟩

theorem control_change (now : Nat) (m : Machine) (name : String) (signal : ControlSignal) :
    ∃ r m', Answers (control now name signal) m r m' ∧
      Change m.ledger (.control name signal, r.map fun _ => ()) m'.ledger := by
  cases h : m.services.find? name with
  | none => exact ⟨_, _, control_absent h signal, .none rfl rfl⟩
  | some s =>
    by_cases hi : signal = .interrogate
    · subst hi
      exact ⟨_, _, control_interrogate h, .touched rfl rfl h⟩
    by_cases hs : signal = .stop
    · subst hs
      cases hp : (s.refresh now m.stopBehavior).phase with
      | stopped => exact ⟨_, _, control_stop_stopped h hp, .touched rfl rfl h⟩
      | stopping pid since => exact ⟨_, _, control_stop_stopping h hp, .touched rfl rfl h⟩
      | running pid =>
        by_cases hb : m.stopBehavior = .reject
        · exact ⟨_, _, control_stop_rejected h hp hb, .touched rfl rfl h⟩
        · refine ⟨_, _, control_stop_accepted h hp hb, .updated rfl rfl h rfl ?_⟩
          -- what runs after it was brought up to date ran before
          have hs : s.phase = .running pid := ((s.phase.refresh_cases now m.stopBehavior).resolve_left
            (by rintro hstop; cases hstop.symm.trans hp)).symm.trans hp
          rw [hs]
          refine (Phase.refresh_cases now m.stopBehavior (.stopping pid now)).imp_right fun hphase => ?_
          rw [hphase]
          rfl
    · exact ⟨_, _, control_other h hi hs, .touched rfl rfl h⟩

/-- **Every request changes the ledger in one of these ways.** -/
theorem ask_change (r : Request) (now : Nat) (m : Machine) :
    ∃ o m', Answers (r.ask now) m o m' ∧ Change m.ledger (r, o) m'.ledger := by
  cases r with
  | connect =>
    cases h : m.deniesAccess with
    | true => exact ⟨_, _, connect_denied h, .none rfl rfl⟩
    | false => exact ⟨_, _, connect_granted h, .none rfl rfl⟩
  | openEntry name =>
    cases h : m.services.find? name with
    | none => exact ⟨_, _, (openEntry_absent h).drop, .none rfl rfl⟩
    | some s => exact ⟨_, _, (openEntry_found h).drop, .none rfl rfl⟩
  | create spec =>
    cases h : m.services.find? spec.name with
    | none => exact ⟨_, _, (create_free h).drop, .created rfl rfl h⟩
    | some s => exact ⟨_, _, (create_taken h).drop, .none rfl rfl⟩
  | query name =>
    cases h : m.services.find? name with
    | none => exact ⟨_, _, (query_absent h).drop, .none rfl rfl⟩
    | some s => exact ⟨_, _, (query_found h).drop, .touched rfl rfl h⟩
  | start name => exact start_change now m name
  | control name signal =>
    obtain ⟨r, m', h, hc⟩ := control_change now m name signal
    exact ⟨_, m', h.drop, hc⟩
  | setRecovery name action =>
    cases h : m.services.find? name with
    | none => exact ⟨_, _, setRecovery_absent h action, .none rfl rfl⟩
    | some s => exact ⟨_, _, setRecovery_found h action, .updated rfl rfl h rfl (refresh_process s now m.stopBehavior)⟩
  | delete name =>
    cases hf : m.failsDelete with
    | true => exact ⟨_, _, delete_refused hf, .none rfl rfl⟩
    | false =>
      cases h : m.services.find? name with
      | none => exact ⟨_, _, delete_absent hf h, .none rfl rfl⟩
      | some s => exact ⟨_, _, delete_found hf h, .deleted rfl rfl⟩
  | terminate pid =>
    cases h : List.find? (fun entry => entry.2.hasProcess pid) m.services with
    | none => exact ⟨_, _, terminate_unknown h, .none rfl rfl⟩
    | some entry => exact ⟨_, _, terminate_found h, .terminated h⟩
  | registerLogSource name =>
    cases h : m.failsLogRegistration || m.hasLogSource name with
    | true => exact ⟨_, _, registerLogSource_refused h, .none rfl rfl⟩
    | false => exact ⟨_, _, registerLogSource_granted h, .none rfl rfl⟩
  | removeLogSource name =>
    cases h : m.failsLogRemoval || !m.hasLogSource name with
    | true => exact ⟨_, _, removeLogSource_refused h, .none rfl rfl⟩
    | false => exact ⟨_, _, removeLogSource_granted h, .none rfl rfl⟩
  | service name =>
    cases h : m.services.find? name with
    | none => exact ⟨_, _, (Answers.lift (service_absent h)).drop, .none rfl rfl⟩
    | some s => exact ⟨_, _, (Answers.lift (service_found h)).drop,
        .updated rfl rfl h rfl (refresh_process s now m.stopBehavior)⟩
  | takeScript => exact ⟨_, _, takeScript_answers.drop, .none rfl rfl⟩
  | takeFault => exact ⟨_, _, takeFault_answers, .none rfl rfl⟩
  | closeSession => exact ⟨_, _, rfl, .none rfl rfl⟩
  | closeEntry => exact ⟨_, _, rfl, .none rfl rfl⟩
  | keepReport report => exact ⟨_, _, rfl, .none rfl rfl⟩
  | set setting =>
    refine ⟨_, _, rfl, ?_⟩
    cases setting <;> exact .none rfl rfl
  | pass ms => exact ⟨_, _, rfl, .none rfl rfl⟩

end Changes

end ServiceControl.Memory
