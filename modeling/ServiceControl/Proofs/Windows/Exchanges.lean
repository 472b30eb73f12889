import ServiceControl.Proofs.Windows.Uses
import ServiceControl.Scenario.Win32
/-!
# What passes between a controller and Windows

A call with its reply is an exchange, and what passes while something is done is a list of events: exchanges, and
processes that are ended.  Windows and the script of its replies tell which events there can be (`Desk.Meets`), so that
what is called and what is replied determine each other.  A program is followed event by event (`Lookout.since`), with one
rule for each way to ask something of Windows.
-/
namespace ServiceControl

/-! ## Trails -/

/-- A way from state to state, with the label of each step. -/
inductive Trail {σ ε : Type} (step : σ → ε → σ → Prop) : σ → List ε → σ → Prop
  | nil (s : σ) : Trail step s [] s
  | cons {s s' s'' : σ} {e : ε} {es : List ε} (first : step s e s') (rest : Trail step s' es s'') :
      Trail step s (e :: es) s''

namespace Trail

variable {σ ε : Type} {step : σ → ε → σ → Prop} {s s' s'' : σ} {es es' : List ε} {e : ε}

theorem append (h : Trail step s es s') (h' : Trail step s' es' s'') : Trail step s (es ++ es') s'' := by
  induction h with
  | nil _ => exact h'
  | cons first _ ih => exact .cons first (ih h')

theorem snoc (h : Trail step s es s') (last : step s' e s'') : Trail step s (es ++ [e]) s'' :=
  h.append (.cons last (.nil _))

theorem split (h : Trail step s (es ++ e :: es') s'') :
    ∃ t t', Trail step s es t ∧ step t e t' ∧ Trail step t' es' s'' := by
  induction es generalizing s with
  | nil =>
    cases h with
    | cons first rest => exact ⟨_, _, .nil _, first, rest⟩
  | cons _ es ih =>
    cases h with
    | cons first rest =>
      obtain ⟨t, t', before, this, after⟩ := ih rest
      exact ⟨t, t', .cons first before, this, after⟩

end Trail

namespace Windows

open Cell (Leads Returns Ensures Yields Either)

/-! ## Exchanges -/

/-- The function that a call is a call of; the control handler is called by Windows. -/
def Call.function? : Call → Option Function
  | openManager .. => some .openManager
  | openService .. => some .openService
  | createService .. => some .createService
  | closeServiceHandle .. => some .closeServiceHandle
  | deleteService .. => some .deleteService
  | startService .. => some .startService
  | controlService .. => some .controlService
  | queryStatus .. => some .queryStatus
  | setDescription .. | setFailureActions .. => some .changeConfig
  | createKey .. => some .createKey
  | openKey .. => some .openKey
  | setValue .. => some .setValue
  | queryValue .. => some .queryValue
  | deleteKey .. => some .deleteKey
  | closeKey .. => some .closeKey
  | startDispatcher .. => some .startDispatcher
  | registerHandler .. => some .registerHandler
  | setStatus .. => some .setStatus
  | handler .. => none

def Call.obtains : Call → Bool
  | openManager .. | openService .. | createService .. | createKey .. | openKey .. => true
  | _ => false

def Call.closes? : Call → Option Handle
  | closeServiceHandle h | closeKey h => some h
  | _ => none

/-- A call, its reply, and the handle that Windows gave out with it. -/
structure Exchange where
  call : Call
  reply : Reply
  handle : Option Handle := none
  deriving DecidableEq, Repr

/-- What Windows does on a call.  It gives out the handle that was asked for unless it refuses, and takes a handle back
whatever it replies. -/
def Machine.exchange (f : Function) (c : Call) (m : Machine) : Exchange × Machine :=
  let reply := (m.call f c).1
  let m := (m.call f c).2
  match c.closes?, c.obtains, replied reply with
  | some h, _, _ => (⟨c, reply, none⟩, m.release h)
  | none, true, .ok _ => (⟨c, reply, some m.issue.1⟩, m.issue.2)
  | none, _, _ => (⟨c, reply, none⟩, m)

section Exchange

variable {f : Function} {c : Call} {m : Machine}

theorem exchange_closing {h : Handle} (closes : c.closes? = some h) :
    m.exchange f c = (⟨c, (m.call f c).1, none⟩, (m.call f c).2.release h) := by
  unfold Machine.exchange
  rw [closes]

theorem exchange_granted (closes : c.closes? = none) (obtains : c.obtains = true) (grants : (m.call f c).1.Grants) :
    m.exchange f c = (⟨c, (m.call f c).1, some (m.call f c).2.issue.1⟩, (m.call f c).2.issue.2) := by
  unfold Machine.exchange
  dsimp only
  rw [closes, obtains, replied_of_grants grants]

theorem exchange_refused {code : Nat} (closes : c.closes? = none) (refused : (m.call f c).1 = .fails code) :
    m.exchange f c = (⟨c, .fails code, none⟩, (m.call f c).2) := by
  unfold Machine.exchange
  dsimp only
  rw [closes, refused]
  cases c.obtains <;> rfl

theorem exchange_plain (closes : c.closes? = none) (obtains : c.obtains = false) :
    m.exchange f c = (⟨c, (m.call f c).1, none⟩, (m.call f c).2) := by
  unfold Machine.exchange
  rw [closes, obtains]

end Exchange

/-! ## Events -/

/-- What is seen of a world: Windows, and what keeps account of the processes. -/
structure Desk (κ : Type) where
  machine : Machine
  work : κ

inductive Event
  | exchange (e : Exchange)
  /-- A process was to be ended. -/
  | ended (pid : Nat)
  deriving DecidableEq, Repr

/-- **What may happen next**: a call, to which Windows replies as its script says, or the end of a process. -/
inductive Desk.Meets {κ : Type} (mark : Nat → κ → κ) : Desk κ → Event → Desk κ → Prop
  | exchange {f : Function} {c : Call} (called : c.function? = some f) (d : Desk κ) :
      Meets mark d (.exchange (d.machine.exchange f c).1) ⟨(d.machine.exchange f c).2, d.work⟩
  | ended (pid : Nat) (d : Desk κ) : Meets mark d (.ended pid) ⟨d.machine, mark pid d.work⟩

namespace Event

def call? : Event → Option Call
  | exchange e => some e.call
  | ended _ => none

def handle? : Event → Option Handle
  | exchange e => e.handle
  | ended _ => none

def pid? : Event → Option Nat
  | exchange _ => none
  | ended pid => some pid

end Event

def calls (log : List Event) : List Call := log.filterMap Event.call?

section Trails

variable {κ : Type} {mark : Nat → κ → κ} {d d' : Desk κ} {log : List Event}

theorem calls_call (f : Function) (c : Call) (m : Machine) : (m.call f c).2.calls = c :: m.calls := by
  unfold Machine.call
  rw [takeReply_eq]

theorem issued_call (f : Function) (c : Call) (m : Machine) : (m.call f c).2.issued = m.issued := by
  unfold Machine.call
  rw [takeReply_eq]

/-- A call takes no replies but its own. -/
theorem replies_call {f g : Function} (other : g ≠ f) (c : Call) (m : Machine) :
    (m.call f c).2.replies g = m.replies g := by
  unfold Machine.call
  rw [takeReply_eq]
  exact if_neg other

theorem calls_exchange (f : Function) (c : Call) (m : Machine) : (m.exchange f c).2.calls = c :: m.calls := by
  unfold Machine.exchange
  dsimp only
  split <;> exact calls_call f c m

theorem call_exchange (f : Function) (c : Call) (m : Machine) : (m.exchange f c).1.call = c := by
  unfold Machine.exchange
  dsimp only
  split <;> rfl

theorem issued_exchange (f : Function) (c : Call) (m : Machine) :
    (m.exchange f c).1.handle = none ∧ (m.exchange f c).2.issued = m.issued ∨
      (m.exchange f c).1.handle = some (m.issued + 1) ∧ (m.exchange f c).2.issued = m.issued + 1 := by
  unfold Machine.exchange
  dsimp only
  split
  · exact .inl ⟨rfl, issued_call f c m⟩
  · refine .inr ⟨?_, ?_⟩
    · exact congrArg (fun n => some (n + 1)) (issued_call f c m)
    · exact congrArg (· + 1) (issued_call f c m)
  · exact .inl ⟨rfl, issued_call f c m⟩

/-- **Windows keeps what is called, and what ended processes changes is changed.** -/
theorem trail_kept (h : Trail (Desk.Meets mark) d log d') :
    d'.machine.calls = (calls log).reverse ++ d.machine.calls ∧
      d'.work = (log.filterMap Event.pid?).foldl (fun work pid => mark pid work) d.work := by
  induction h with
  | nil d => exact ⟨rfl, rfl⟩
  | @cons d _ _ _ log first _ ih =>
    obtain ⟨hcalls, hwork⟩ := ih
    cases first with
    | @exchange f c called =>
      refine ⟨?_, hwork⟩
      have hcall : calls (.exchange (d.machine.exchange f c).1 :: log) = c :: calls log :=
        congrArg (· :: calls log) (call_exchange f c d.machine)
      rw [hcalls, hcall, List.reverse_cons, List.append_assoc]
      exact congrArg _ (calls_exchange f c d.machine)
    | ended pid => exact ⟨hcalls, hwork⟩

/-- **Handles are numbered as they are given out.** -/
theorem trail_handles (h : Trail (Desk.Meets mark) d log d') :
    ∃ n, log.filterMap Event.handle? = List.range' (d.machine.issued + 1) n := by
  induction h with
  | nil d => exact ⟨0, rfl⟩
  | @cons d _ _ _ log first _ ih =>
    obtain ⟨n, hn⟩ := ih
    cases first with
    | @exchange f c called =>
      obtain ⟨handle, issued⟩ | ⟨handle, issued⟩ := issued_exchange f c d.machine
      · have hhandle : (Event.exchange (d.machine.exchange f c).1).handle? = none := handle
        refine ⟨n, ?_⟩
        rw [List.filterMap_cons_none hhandle, hn]
        exact congrArg (fun m => List.range' (m + 1) n) issued
      · have hhandle : (Event.exchange (d.machine.exchange f c).1).handle? = some (d.machine.issued + 1) := handle
        refine ⟨n + 1, ?_⟩
        rw [List.filterMap_cons_some hhandle, hn, List.range'_succ]
        exact congrArg (fun m => (d.machine.issued + 1) :: List.range' (m + 1) n) issued
    | ended pid => exact ⟨n, hn⟩

/-- What passes on calls that are made one after another. -/
def Machine.replay : List Call → Machine → List Exchange
  | [], _ => []
  | c :: cs, m =>
    match c.function? with
    | none => []
    | some f => (m.exchange f c).1 :: replay cs (m.exchange f c).2

/-- **What is called determines what is replied.** -/
theorem trail_replayed (h : Trail (Desk.Meets mark) d log d') (spared : log.filterMap Event.pid? = []) :
    log = (d.machine.replay (calls log)).map .exchange := by
  induction h with
  | nil d => rfl
  | @cons d _ _ _ log first _ ih =>
    cases first with
    | @exchange f c called =>
      have hcall : calls (.exchange (d.machine.exchange f c).1 :: log) = c :: calls log :=
        congrArg (· :: calls log) (call_exchange f c d.machine)
      have hreplay : Machine.replay (c :: calls log) d.machine =
          (d.machine.exchange f c).1 :: Machine.replay (calls log) (d.machine.exchange f c).2 := by
        rw [Machine.replay, called]
      rw [hcall, hreplay, List.map_cons]
      exact congrArg _ (ih spared)
    | ended pid => cases spared

theorem trail_handles_nodup (h : Trail (Desk.Meets mark) d log d') : (log.filterMap Event.handle?).Nodup := by
  obtain ⟨n, hn⟩ := trail_handles h
  rw [hn]
  exact List.nodup_range'

end Trails

/-! ## Programs, event by event -/

/-- Where Windows is seen, and what keeps account of the processes that are ended. -/
structure Lookout (γ κ : Type) where
  cell : Cell γ Machine
  work : γ → κ
  mark : Nat → κ → κ

namespace Lookout

variable {γ κ α : Type} {o : Lookout γ κ} {d : Desk κ} {Φ : List Event → Prop} {f : Function} {c : Call}

def place (o : Lookout γ κ) : Cell γ (Desk κ) :=
  ⟨fun w => ⟨o.cell.get w, o.work w⟩, fun d w => o.cell.set d.machine w⟩

/-- This holds of what has happened since. -/
def since (o : Lookout γ κ) (d : Desk κ) (Φ : List Event → Prop) (σ : Sight (Desk κ)) : Prop :=
  ∃ log, Trail (Desk.Meets o.mark) d log σ.held ∧ Φ log

/-- Nothing that Windows does has to do with the account of the processes. -/
structure Clear (o : Lookout γ κ) : Prop where
  lawful : o.cell.Lawful
  apart : ∀ m w, o.work (o.cell.set m w) = o.work w

theorem since_mono {Ψ : List Event → Prop} (h : ∀ log, Φ log → Ψ log) (σ : Sight (Desk κ)) (hσ : o.since d Φ σ) :
    o.since d Ψ σ := by
  obtain ⟨log, trail, hlog⟩ := hσ
  exact ⟨log, trail, h log hlog⟩

theorem timeless_since : Cell.Timeless (o.since d Φ) := fun _ _ hσ => hσ

/-- A program that comes to what Windows does on one call. -/
theorem exchange_since {x : Act γ α} {Ψ : α → List Event → Prop} (called : c.function? = some f)
    (exchanges : ∀ σ, ∃ a e m, σ.held.machine.exchange f c = (e, m) ∧
      o.place.Leads x σ (some a) ⟨σ.now, ⟨m, σ.held.work⟩⟩ ∧ ∀ log, Φ log → Ψ a (log ++ [.exchange e])) :
    o.place.Ensures (o.since d Φ) x fun a => o.since d (Ψ a) := by
  refine .of_leads ?_
  rintro σ ⟨log, trail, hlog⟩
  obtain ⟨a, e, m, hexchange, leads, h⟩ := exchanges σ
  have meets : Desk.Meets o.mark σ.held (.exchange e) ⟨m, σ.held.work⟩ := by
    have h : Desk.Meets o.mark σ.held _ _ := .exchange called σ.held
    rwa [hexchange] at h
  exact ⟨a, _, leads, _, trail.snoc meets, h log hlog⟩

variable (clear : o.Clear)
include clear

theorem takeFrom_leads (g : Machine → α × Machine) (σ : Sight (Desk κ)) :
    o.place.Leads (Act.takeFrom o.cell g : Act γ α) σ (some (g σ.held.machine).1)
      ⟨σ.now, ⟨(g σ.held.machine).2, σ.held.work⟩⟩ := by
  refine .step ?_
  rintro s rfl
  refine ⟨rfl, ?_⟩
  show Sight.mk s.now (Desk.mk (o.cell.get (o.cell.set _ s.world)) (o.work (o.cell.set _ s.world))) = _
  rw [clear.lawful.get_set, clear.apart]
  rfl

theorem invoke_leads (f : Function) (c : Call) (σ : Sight (Desk κ)) :
    o.place.Leads (invoke o.cell f c) σ (some (σ.held.machine.call f c).1)
      ⟨σ.now, ⟨(σ.held.machine.call f c).2, σ.held.work⟩⟩ :=
  takeFrom_leads clear (Machine.call f c) σ

variable (called : c.function? = some f)
include called

/-- A call that neither asks for a handle nor closes one. -/
theorem invoke_since {Ψ : Reply → List Event → Prop} (closes : c.closes? = none) (obtains : c.obtains = false)
    (replies : ∀ log reply, Φ log → Ψ reply (log ++ [.exchange ⟨c, reply, none⟩])) :
    o.place.Ensures (o.since d Φ) (invoke o.cell f c) fun reply => o.since d (Ψ reply) := by
  refine exchange_since called fun σ => ?_
  exact ⟨_, _, _, exchange_plain closes obtains, invoke_leads clear f c σ, fun log => replies log _⟩

/-- A call for a handle, which is given out with a reply or refused. -/
theorem acquire_replied {Ψ : Handle × Reply → List Event → Prop} {Ξ : Fault → List Event → Prop}
    (closes : c.closes? = none) (obtains : c.obtains = true)
    (granted : ∀ log reply h, Φ log → reply.Grants → Ψ (h, reply) (log ++ [.exchange ⟨c, reply, some h⟩]))
    (refused : ∀ log code, Φ log → Ξ (.system code) (log ++ [.exchange ⟨c, .fails code, none⟩])) :
    o.place.Yields (o.since d Φ) (acquire o.cell f c)
      (Either (fun r => o.since d (Ψ r)) fun fault => o.since d (Ξ fault)) := by
  let Θ : Except Fault (Handle × Reply) → List Event → Prop
    | .ok r => Ψ r
    | .error fault => Ξ fault
  have hacquire : o.place.Yields (o.since d Φ) (acquire o.cell f c) fun r => o.since d (Θ r) := by
    refine exchange_since called fun σ => ?_
    have hrequest := request_returns (invoke_leads clear f c σ)
    -- a handle is given out only after the reply, and no handle if Windows refuses
    by_cases grants : (σ.held.machine.call f c).1.Grants
    · rw [replied_of_grants grants] at hrequest
      have hissue := takeFrom_leads clear Machine.issue ⟨σ.now, ⟨(σ.held.machine.call f c).2, σ.held.work⟩⟩
      refine ⟨.ok ((σ.held.machine.call f c).2.issue.1, (σ.held.machine.call f c).1), _, _,
        exchange_granted closes obtains grants, ?_, fun log hlog => granted log _ _ hlog grants⟩
      exact hrequest.bind ((Returns.lift hissue).bind (.pure _))
    · obtain ⟨code, hcode⟩ := fails_of_refused grants
      rw [hcode] at hrequest
      refine ⟨.error (.system code), _, _, exchange_refused closes hcode, ?_, fun log => refused log code⟩
      exact hrequest.bind_error
  refine hacquire.weaken fun r σ hσ => ?_
  cases r with
  | ok r => exact hσ
  | error fault => exact hσ

/-- The same where only the handle matters of what is given out. -/
theorem acquire_since {Ψ : Handle → List Event → Prop} {Ξ : Fault → List Event → Prop} (closes : c.closes? = none)
    (obtains : c.obtains = true)
    (granted : ∀ log reply h, Φ log → reply.Grants → Ψ h (log ++ [.exchange ⟨c, reply, some h⟩]))
    (refused : ∀ log code, Φ log → Ξ (.system code) (log ++ [.exchange ⟨c, .fails code, none⟩])) :
    o.place.Yields (o.since d Φ) (acquire o.cell f c)
      (Either (fun r => o.since d (Ψ r.1)) fun fault => o.since d (Ξ fault)) :=
  acquire_replied (Ψ := fun r => Ψ r.1) clear called closes obtains granted refused

omit called in
/-- A handle that is closed, whatever Windows replies. -/
theorem close_since {g : Handle → Call} {h : Handle} {Ψ : List Event → Prop} (called : (g h).function? = some f)
    (closes : (g h).closes? = some h) (closed : ∀ log reply, Φ log → Ψ (log ++ [.exchange ⟨g h, reply, none⟩])) :
    o.place.Ensures (o.since d Φ) (close o.cell f g h) fun _ => o.since d Ψ := by
  refine exchange_since called fun σ => ?_
  have hrelease := takeFrom_leads clear (fun m => ((), m.release h))
    ⟨σ.now, ⟨(σ.held.machine.call f (g h)).2, σ.held.work⟩⟩
  refine ⟨(), _, _, exchange_closing closes, ?_, fun log => closed log _⟩
  exact (invoke_leads clear f (g h) σ).bind hrelease

end Lookout

/-! ## Controllers -/

/-- **A controller that manages its service through Windows**, with nothing else that has to do with Windows: to end a
process is to put it to the account of the processes. -/
structure Governs {γ κ : Type} [Background γ] (c : Controller γ Handle Handle) (o : Lookout γ κ) : Prop extends
    o.Clear where
  gateway : c.gateway = gateway o.cell
  still : o.place.Still
  terminate : ∀ pid s, o.place.get ((c.terminate pid).run s).2.world =
    ⟨o.cell.get s.world, o.mark pid (o.work s.world)⟩

theorem Governs.terminate_since {γ κ : Type} [Background γ] {c : Controller γ Handle Handle} {o : Lookout γ κ}
    (governs : Governs c o) {d : Desk κ} {Φ Ψ : List Event → Prop} (pid : Nat)
    (ended : ∀ log, Φ log → Ψ (log ++ [.ended pid])) :
    o.place.Yields (o.since d Φ) (c.terminate pid) fun _ => o.since d Ψ := by
  rintro s ⟨log, trail, hlog⟩
  refine ⟨_, rfl, _, trail.snoc ?_, ended log hlog⟩
  show Desk.Meets o.mark _ _ (o.place.get ((c.terminate pid).run s).2.world)
  rw [governs.terminate pid s]
  exact .ended pid _

end Windows

/-- What an administrator has a controller do. -/
inductive Errand
  | install
  | uninstall
  | start
  | stop
  | restart
  | status
  deriving DecidableEq, Repr

/-- Does an errand; the state of the service is told as a text. -/
def Controller.perform {γ S E : Type} (c : Controller γ S E) : Errand → Op γ (Option String)
  | .install => do
    c.install
    return none
  | .uninstall => do
    c.uninstall
    return none
  | .start => do
    c.start
    return none
  | .stop => do
    c.stop
    return none
  | .restart => do
    c.restart
    return none
  | .status => do return some (← c.status)

/-! ## Scenarios -/

namespace Scenario.Win32

/-- The processes that were to be ended, the latest first. -/
def lookout : Windows.Lookout World (List Nat) := ⟨cell, fun w => w.manager.terminated.map Prod.snd, List.cons⟩

theorem lookout_clear : lookout.Clear where
  lawful := Cell.inside_lawful Stage.managerCell_undisturbed.toLawful ⟨fun _ _ => rfl, fun _ _ _ => rfl, fun _ => rfl⟩
  apart _ _ := rfl

/-- However a termination ends, it is on record. -/
theorem terminate_returns (now pid : Nat) (b : Bench) :
    ∃ r, Stage.managerCell.Returns (terminate pid) ⟨now, b⟩ r ⟨now, (takeTermination now pid b).2⟩ := by
  have htake : Stage.managerCell.Returns (liftM (Act.takeFrom Stage.managerCell (takeTermination now pid) :
      Act World (Option ServiceError)) : Call World (Option ServiceError)) ⟨now, b⟩ (.ok (takeTermination now pid b).1)
      ⟨now, (takeTermination now pid b).2⟩ :=
    Cell.Returns.lift (Cell.Leads.takeFrom Stage.managerCell_undisturbed.toLawful _)
  cases hreply : (takeTermination now pid b).1 with
  | none =>
    rw [hreply] at htake
    exact ⟨_, Cell.Returns.now.bind (htake.bind (.pure ()))⟩
  | some e =>
    rw [hreply] at htake
    exact ⟨_, Cell.Returns.now.bind (htake.bind (.throw e))⟩

theorem takeTermination_records (now pid : Nat) (b : Bench) :
    (takeTermination now pid b).2.windows = b.windows ∧
      (takeTermination now pid b).2.terminated = (now, pid) :: b.terminated := by
  unfold takeTermination
  dsimp only
  split <;> exact ⟨rfl, rfl⟩

/-- The controllers of scenarios, if they can end processes. -/
theorem governs {role : Role} (able : role.powerless = false) (binary : RunningBinary) :
    Windows.Governs (role.controller 0 gateway terminate binary) lookout where
  toClear := lookout_clear
  gateway := rfl
  still := ⟨fun _ _ => rfl, fun _ _ _ => rfl⟩
  terminate pid s := by
    have hterminate : (role.controller 0 gateway terminate binary).terminate = terminate := by
      show (if role.powerless then _ else _) = _
      rw [able, if_neg Bool.false_ne_true]
    obtain ⟨r, hreturns⟩ := terminate_returns s.now pid s.world.manager
    obtain ⟨hwindows, hended⟩ := takeTermination_records s.now pid s.world.manager
    have hbench : ((terminate pid).run s).2.world.manager = (takeTermination s.now pid s.world.manager).2 :=
      congrArg (·.held) (hreturns s rfl).2
    rw [hterminate]
    show Windows.Desk.mk ((terminate pid).run s).2.world.manager.windows
      (((terminate pid).run s).2.world.manager.terminated.map Prod.snd) = _
    rw [hbench, hwindows, hended]
    rfl

end Scenario.Win32

end ServiceControl
