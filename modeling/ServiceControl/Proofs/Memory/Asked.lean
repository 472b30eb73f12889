import ServiceControl.Proofs.Memory.Oversight
import ServiceControl.Proofs.Memory.Requests
import ServiceControl.Proofs.Operations
/-!
# What a controller asks

All that a controller does with a machine is to make requests that concern the name of its service, and to end processes.
So what these keep its orders keep (`Oversees.carryOut_keeps`), whatever the machine answers.
-/
namespace ServiceControl.Memory

open Cell (Ensures Yields Keeps)
open StopTarget (Heeding)

/-! ## Requests of one name -/

namespace Request

/-- A request that the controller of a service makes, or its gateway for it. -/
def Concerns (name : String) : Request → Prop
  | connect | closeSession | closeEntry | takeScript | takeFault | keepReport _ => True
  | openEntry other | query other | start other | control other _ | setRecovery other _ | delete other
  | registerLogSource other | removeLogSource other => other = name
  | create spec => spec.name = name
  | service _ | terminate _ | set _ | pass _ => False

end Request

/-- The machine after a request. -/
def Machine.serve (m : Machine) (now : Nat) (r : Request) : Machine := ((r.ask now).run.run m).2

section Serving

variable {α : Type} {m m' : Machine} {now : Nat} {r : Request}

theorem serve_eq {o : Except ServiceError Unit} (h : Answers (r.ask now) m o m') : m.serve now r = m' :=
  congrArg Prod.snd h

/-- What is answered beside does not matter for what becomes of the machine. -/
theorem serve_drop {x : Ask α} (h : r.ask now = do let _ ← x) : (x.run.run m).2 = m.serve now r := by
  have answers : Answers x m (x.run.run m).1 (x.run.run m).2 := rfl
  have dropped := answers.drop
  rw [← h] at dropped
  exact (serve_eq dropped).symm

/-- What a request does to the ledger. -/
theorem serve_change (m : Machine) (now : Nat) (r : Request) : ∃ o, Change m.ledger (r, o) (m.serve now r).ledger := by
  obtain ⟨o, m', answers, change⟩ := ask_change r now m
  rw [← serve_eq answers] at change
  exact ⟨o, change⟩

theorem openEntry_ok {name entry : String} (h : Answers (openEntry name) m (.ok entry) m') : entry = name := by
  cases found : m.services.find? name with
  | none => cases (h.unique (openEntry_absent found)).1
  | some s => exact Except.ok.inj (h.unique (openEntry_found found)).1

theorem create_ok {spec : ServiceSpec} {entry : String} (h : Answers (create spec) m (.ok entry) m') :
    entry = spec.name := by
  cases found : m.services.find? spec.name with
  | none => exact Except.ok.inj (h.unique (create_free found)).1
  | some s => cases (h.unique (create_taken found)).1

end Serving

/-! ## Controllers -/

section Calls

variable {γ α : Type} {cell : Cell γ Machine} (lawful : cell.Lawful) {Inv : Machine → Prop}
include lawful

/-- A call keeps what its request keeps. -/
theorem asking_served {ask : Ask α} {r : Request} {Q : Except ServiceError α → Sight Machine → Prop}
    (same : ∀ now m, (ask.run.run m).2 = m.serve now r) (kept : ∀ now m, Inv m → Inv (m.serve now r))
    (h : ∀ m o m' now, Inv m → Answers ask m o m' → Inv m' → Q o ⟨now, m'⟩) :
    cell.Yields (fun σ => Inv σ.held) (asking cell ask) Q := by
  refine asking_yields lawful fun σ hσ => ?_
  have after := kept σ.now σ.held hσ
  rw [← same] at after
  exact ⟨_, _, rfl, h _ _ _ σ.now hσ rfl after⟩

theorem askingNow_served {ask : Nat → Ask α} {r : Request} {Q : Except ServiceError α → Sight Machine → Prop}
    (same : ∀ now m, ((ask now).run.run m).2 = m.serve now r) (kept : ∀ now m, Inv m → Inv (m.serve now r))
    (h : ∀ m o m' now, Inv m → Answers (ask now) m o m' → Inv m' → Q o ⟨now, m'⟩) :
    cell.Yields (fun σ => Inv σ.held) (askingNow cell ask) Q := by
  refine askingNow_yields lawful fun σ hσ => ?_
  have after := kept σ.now σ.held hσ
  rw [← same] at after
  exact ⟨_, _, rfl, h _ _ _ σ.now hσ rfl after⟩

end Calls

variable {γ : Type} [Background γ] {c : Controller γ Unit String} {cell : Cell γ Machine} {Inv : Machine → Prop}

section Gateway

variable (gated : c.gateway = gateway cell) (lawful : cell.Lawful)
  (kept : ∀ r now m, r.Concerns c.name → r ≠ .start c.name → Inv m → Inv (m.serve now r))
include gated lawful kept

omit [Background γ] in
/-- **What the requests of a name keep, the calls of its controller keep**, if it is also kept by the end of each process
that they tell of. -/
theorem heeds_of_requests {Safe : Nat → Prop}
    (queried : ∀ m now status m', Inv m → Answers (query now c.name) m (.ok status) m' → Safe status.processId)
    (controlled : ∀ m now status m', Inv m → Answers (control now c.name .stop) m (.ok status) m' →
      Safe status.processId)
    (ends : ∀ pid s, Safe pid → Inv (cell.get s.world) → Inv (cell.get ((c.terminate pid).run s).2.world)) :
    c.Heeds cell (fun σ => Inv σ.held) (· = c.name) Safe := by
  have keeps (r : Request) (concerns : r.Concerns c.name) (other : r ≠ .start c.name) (now : Nat) (m : Machine) :
      Inv m → Inv (m.serve now r) := kept r now m concerns other
  constructor
  case connects =>
    rw [gated]
    exact asking_served lawful (r := .connect) (fun _ _ => rfl) (keeps _ trivial nofun) fun _ _ _ _ _ _ hm => hm
  case opens =>
    intro session
    rw [gated]
    refine asking_served lawful (r := .openEntry c.name) (fun _ _ => serve_drop rfl) (keeps _ rfl nofun)
      fun m o m' now _ answers hm => ?_
    cases o with
    | ok entry => exact ⟨openEntry_ok answers, hm⟩
    | error e => exact hm
  case creates =>
    intro session spec named
    rw [gated]
    refine asking_served lawful (r := .create spec) (fun _ _ => serve_drop rfl) (keeps _ named nofun)
      fun m o m' now _ answers hm => ?_
    cases o with
    | ok entry => exact ⟨(create_ok answers).trans named, hm⟩
    | error e => exact hm
  case queries =>
    rintro entry rfl
    rw [gated]
    refine askingNow_served lawful (r := .query c.name) (fun _ _ => serve_drop rfl) (keeps _ rfl nofun)
      fun m o m' now before answers hm => ?_
    cases o with
    | ok status => exact ⟨queried m now status m' before answers, hm⟩
    | error e => exact hm
  case controls =>
    rintro entry rfl
    rw [gated]
    refine askingNow_served lawful (r := .control c.name .stop) (fun _ _ => serve_drop rfl) (keeps _ rfl nofun)
      fun m o m' now before answers hm => ?_
    cases o with
    | ok status => exact ⟨controlled m now status m' before answers, hm⟩
    | error e => exact hm
  case recovers =>
    rintro entry action rfl
    rw [gated]
    exact askingNow_served lawful (r := .setRecovery c.name action) (fun _ _ => rfl) (keeps _ rfl nofun)
      fun _ _ _ _ _ _ hm => hm
  case deletes =>
    rintro entry rfl
    rw [gated]
    exact asking_served lawful (r := .delete c.name) (fun _ _ => rfl) (keeps _ rfl nofun) fun _ _ _ _ _ _ hm => hm
  case registers =>
    rw [gated]
    exact asking_served lawful (r := .registerLogSource c.name) (fun _ _ => rfl) (keeps _ rfl nofun)
      fun _ _ _ _ _ _ hm => hm
  case removes =>
    rw [gated]
    exact asking_served lawful (r := .removeLogSource c.name) (fun _ _ => rfl) (keeps _ rfl nofun)
      fun _ _ _ _ _ _ hm => hm
  case closesEntry =>
    intro entry
    rw [gated]
    exact onMachine_ensures lawful fun σ hσ => keeps .closeEntry trivial nofun σ.now σ.held hσ
  case closesSession =>
    intro session
    rw [gated]
    exact onMachine_ensures lawful fun σ hσ => keeps .closeSession trivial nofun σ.now σ.held hσ
  case timeouts =>
    rw [gated]
    exact fun s hs => ⟨_, rfl, hs⟩
  case ends => exact fun pid safe s hs => ⟨_, rfl, ends pid s safe hs⟩

end Gateway

/-- **What the requests of a name and the ends of processes keep, an order to its controller keeps**, also one that waits
for good. -/
theorem Oversees.carryOut_keeps (o : Oversees c cell)
    (kept : ∀ r now m, r.Concerns c.name → Inv m → Inv (m.serve now r))
    (ends : ∀ pid s, Inv (cell.get s.world) → Inv (cell.get ((c.terminate pid).run s).2.world))
    (order : Scenario.Order) :
    cell.Keeps (fun σ => Inv σ.held) (order = .run → Finite c) (carryOut c order).run := by
  have lawful := o.quiet.toLawful
  have timeless : Cell.Timeless fun σ : Sight Machine => Inv σ.held := fun _ _ hσ => hσ
  have heeds : c.Heeds cell (fun σ => Inv σ.held) (· = c.name) fun _ => True :=
    heeds_of_requests o.gateway lawful (fun r now m concerns _ => kept r now m concerns) (fun _ _ _ _ _ _ => trivial)
      (fun _ _ _ _ _ _ => trivial) fun pid s _ => ends pid s
  have hstart (entry : String) (mine : entry = c.name) :
      cell.Yields (fun σ => Inv σ.held) (c.gateway.start entry) fun _ σ => Inv σ.held := by
    rw [o.gateway, mine]
    exact askingNow_served lawful (r := .start c.name) (fun _ _ => rfl) (fun now m => kept _ now m rfl)
      fun _ _ _ _ _ _ hm => hm
  have done {x : Op γ Unit} (hx : cell.Yields (fun σ => Inv σ.held) x fun _ σ => Inv σ.held) :
      cell.Keeps (fun σ => Inv σ.held) (order = .run → Finite c) x.run := Ensures.keeps hx
  have hclose := heeds.closesEntry
  have hleave := heeds.closesSession
  cases order with
  | install => exact done (Yields.call heeds.install_keeps)
  | uninstall => exact done (heeds.uninstall_keeps o.quiet.toStill timeless)
  | start => exact done (Yields.call (heeds.start_leads hstart (fun _ hσ => hσ) hclose hleave))
  | stop => exact done (heeds.stop_keeps o.quiet.toStill timeless)
  | restart => exact done (heeds.restart_leads o.quiet.toStill timeless hstart (fun _ hσ => hσ) hclose hleave)
  | status => exact done ((Yields.act heeds.status_keeps).bind_ok fun _ => .pure fun _ hσ => hσ)
  | run =>
    have requested {α : Type} {ask : Ask α} {r : Request} (same : ∀ now m, (ask.run.run m).2 = m.serve now r)
        (concerns : r.Concerns c.name) :
        cell.Yields (fun σ => Inv σ.held) (asking cell ask) fun _ σ => Inv σ.held :=
      asking_served lawful same (fun now m => kept r now m concerns) fun _ _ _ _ _ _ hm => hm
    refine (o.run_keeps timeless heeds.status_keeps (requested (r := .takeScript) (fun _ _ => serve_drop rfl) trivial)
      (requested (r := .takeFault) (fun _ _ => rfl) trivial) fun report => ?_).of_ends fun finite => finite rfl
    exact onMachine_ensures lawful fun σ hσ => kept (.keepReport report) σ.now σ.held trivial hσ

end ServiceControl.Memory
