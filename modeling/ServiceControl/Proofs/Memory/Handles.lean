import ServiceControl.Proofs.Memory.Requests
import ServiceControl.Proofs.Memory.Staged
/-!
# Sessions and entries are given back

What a machine remembers tells how many sessions and entries of it are open at any moment (`serveAll_tallies`), and each
order of a controller leaves a balanced account of both, however it ends (`orders_balance`).
-/
namespace ServiceControl.Memory

/-! ## Tallies -/

/-- How many sessions are open after an event. -/
def Event.sessions (opened : Nat) : Event → Nat
  | .sessionOpened => opened + 1
  | .sessionClosed => opened - 1
  | _ => opened

def Event.entries (opened : Nat) : Event → Nat
  | .entryOpened => opened + 1
  | .entryClosed => opened - 1
  | _ => opened

/-- The machine has come to count what the events tell, the earliest first. -/
structure Machine.Tallies (m : Machine) (es : List Event) (m' : Machine) : Prop where
  history : m'.history = es.reverse ++ m.history
  sessions : m'.openSessions = es.foldl Event.sessions m.openSessions
  entries : m'.openEntries = es.foldl Event.entries m.openEntries

namespace Machine.Tallies

variable {m m₁ m₂ : Machine} {es es' : List Event}

theorem append (h : m.Tallies es m₁) (h' : m₁.Tallies es' m₂) : m.Tallies (es ++ es') m₂ where
  history := by rw [h'.history, h.history, List.reverse_append, List.append_assoc]
  sessions := by rw [h'.sessions, h.sessions, List.foldl_append]
  entries := by rw [h'.entries, h.entries, List.foldl_append]

theorem foldl_asked {count : Nat → Event → Nat} (asked : ∀ n operation, count n (.asked operation) = n) (n : Nat)
    (operations : List Operation) : (operations.map Event.asked).foldl count n = n := by
  induction operations with
  | nil => rfl
  | cons operation operations ih => rw [List.map_cons, List.foldl_cons, asked, ih]

end Machine.Tallies

theorem Machine.Tends.tallies {m m' : Machine} (t : m.Tends m') : ∃ es, m.Tallies es m' := by
  obtain ⟨operations, -, history⟩ := t.history
  refine ⟨operations.map .asked, history, ?_, ?_⟩
  · rw [Tallies.foldl_asked fun _ _ => rfl, t.sessions]
  · rw [Tallies.foldl_asked fun _ _ => rfl, t.entries]

/-- **Every request that does not make the machine forget is tallied.** -/
theorem ask_tallies (r : Request) (remembers : r ≠ .set .oblivion) (now : Nat) (m : Machine) :
    ∃ o m', Answers (r.ask now) m o m' ∧ ∃ es, m.Tallies es m' := by
  have tended {r : Request} {α : Type} {ask : Ask α} (h : ∃ r m', Answers ask m r m' ∧ m.Tends m')
      (hask : r.ask now = do let _ ← ask) : ∃ o m', Answers (r.ask now) m o m' ∧ ∃ es, m.Tallies es m' := by
    obtain ⟨_, m', ha, ht⟩ := h
    exact ⟨_, m', hask ▸ ha.drop, ht.tallies⟩
  cases r with
  | connect =>
    cases h : m.deniesAccess with
    | true => exact ⟨_, _, connect_denied h, [.asked .connect], rfl, rfl, rfl⟩
    | false => exact ⟨_, _, connect_granted h, [.asked .connect, .sessionOpened], rfl, rfl, rfl⟩
  | openEntry name =>
    cases h : m.services.find? name with
    | none => exact ⟨_, _, (openEntry_absent h).drop, [.asked .openEntry], rfl, rfl, rfl⟩
    | some s => exact ⟨_, _, (openEntry_found h).drop, [.asked .openEntry, .entryOpened], rfl, rfl, rfl⟩
  | create spec =>
    cases h : m.services.find? spec.name with
    | none => exact ⟨_, _, (create_free h).drop, [.asked .create, .entryOpened], rfl, rfl, rfl⟩
    | some s => exact ⟨_, _, (create_taken h).drop, [.asked .create], rfl, rfl, rfl⟩
  | query name => exact tended (visits_tend (by decide) (query_visits now m name)) rfl
  | start name =>
    obtain ⟨r, m', ha, ht⟩ := visits_tend (by decide) (start_visits now m name)
    exact ⟨r, m', ha, ht.tallies⟩
  | control name signal => exact tended (visits_tend (by decide) (control_visits now m name signal)) rfl
  | setRecovery name action =>
    obtain ⟨r, m', ha, ht⟩ := visits_tend (by decide) (setRecovery_visits now m name action)
    exact ⟨r, m', ha, ht.tallies⟩
  | delete name =>
    cases hf : m.failsDelete with
    | true => exact ⟨_, _, delete_refused hf, [.asked .delete], rfl, rfl, rfl⟩
    | false =>
      cases h : m.services.find? name with
      | none => exact ⟨_, _, delete_absent hf h, [.asked .delete], rfl, rfl, rfl⟩
      | some s => exact ⟨_, _, delete_found hf h, [.asked .delete], rfl, rfl, rfl⟩
  | terminate pid =>
    obtain ⟨r, m', ha, ht⟩ := terminate_tends m pid
    exact ⟨r, m', ha, ht.tallies⟩
  | registerLogSource name =>
    cases h : m.failsLogRegistration || m.hasLogSource name with
    | true => exact ⟨_, _, registerLogSource_refused h, [.asked .registerLogSource], rfl, rfl, rfl⟩
    | false => exact ⟨_, _, registerLogSource_granted h, [.asked .registerLogSource], rfl, rfl, rfl⟩
  | removeLogSource name =>
    cases h : m.failsLogRemoval || !m.hasLogSource name with
    | true => exact ⟨_, _, removeLogSource_refused h, [.asked .removeLogSource], rfl, rfl, rfl⟩
    | false => exact ⟨_, _, removeLogSource_granted h, [.asked .removeLogSource], rfl, rfl, rfl⟩
  | service name =>
    cases h : m.services.find? name with
    | none => exact ⟨_, _, (Answers.lift (service_absent h)).drop, [], rfl, rfl, rfl⟩
    | some s => exact ⟨_, _, (Answers.lift (service_found h)).drop, [], rfl, rfl, rfl⟩
  | takeScript => exact tended (takeScript_tends m) rfl
  | takeFault =>
    obtain ⟨r, m', ha, ht⟩ := takeFault_tends m
    exact ⟨r, m', ha, ht.tallies⟩
  | closeSession => exact ⟨_, _, rfl, [.sessionClosed], rfl, rfl, rfl⟩
  | closeEntry => exact ⟨_, _, rfl, [.entryClosed], rfl, rfl, rfl⟩
  | keepReport report => exact ⟨_, _, rfl, [], rfl, rfl, rfl⟩
  | set setting =>
    refine ⟨_, _, rfl, [], ?_⟩
    cases setting with
    | oblivion => exact absurd rfl remembers
    | _ => exact ⟨rfl, rfl, rfl⟩
  | pass ms => exact ⟨_, _, rfl, [], rfl, rfl, rfl⟩

/-- **What a machine remembers tells how many sessions and entries are open**, whatever it is asked. -/
theorem serveAll_tallies (t : Trace) (requests : List Request) (remembers : .set .oblivion ∉ requests) :
    ∃ es, t.machine.Tallies es (t.serveAll requests).machine := by
  induction requests generalizing t with
  | nil => exact ⟨[], rfl, rfl, rfl⟩
  | cons r requests ih =>
    obtain ⟨first, rest⟩ := not_or.1 (mt List.mem_cons.2 remembers)
    obtain ⟨o, m', ha, es, hr⟩ := ask_tallies r (Ne.symm first) t.now t.machine
    have hrun : (r.ask t.now).run.run t.machine = (o, m') := ha
    have served : (t.serve r).machine = m' := by
      unfold Trace.serve
      rw [hrun]
    obtain ⟨es', hrest⟩ := ih (t.serve r) rest
    rw [served] at hrest
    exact ⟨es ++ es', hr.append hrest⟩

/-! ## Balanced accounts -/

/-- How many more sessions were opened than closed. -/
def netSessions (es : List Event) : Int := es.count .sessionOpened - es.count .sessionClosed

def netEntries (es : List Event) : Int := es.count .entryOpened - es.count .entryClosed

/-- **Nothing is closed that is not open, and nothing is opened twice**: at any moment there is at most one session, and at
most one entry, within it.  A log source is removed while neither is open, and in the end neither is. -/
structure Balanced (es : List Event) : Prop where
  sessions : ∀ past, past <+: es → 0 ≤ netSessions past ∧ netSessions past ≤ 1
  entries : ∀ past, past <+: es → 0 ≤ netEntries past ∧ netEntries past ≤ 1
  within : ∀ past, past <+: es → netEntries past ≤ netSessions past
  removal : ∀ past, past ++ [.asked .removeLogSource] <+: es → netSessions past = 0 ∧ netEntries past = 0
  settled : netSessions es = 0 ∧ netEntries es = 0

namespace Hold

theorem net_cons (e : Event) (es : List Event) : netSessions (e :: es) = netSessions [e] + netSessions es ∧
    netEntries (e :: es) = netEntries [e] + netEntries es := by
  unfold netSessions netEntries
  simp only [List.count_cons, List.count_nil]
  omega

theorem next_net {h h' : Hold} {e : Event} (hn : h.next e = some h') :
    (h.sessions : Int) + netSessions [e] = h'.sessions ∧ (h.entries : Int) + netEntries [e] = h'.entries := by
  cases e with
  | asked operation =>
    have same : h' = h := by
      cases h <;> simp_all [next]
    subst same
    exact ⟨Int.add_zero _, Int.add_zero _⟩
  | _ =>
    cases h <;> cases hn
    exact ⟨rfl, rfl⟩

/-- What is held after some events is what they add up to. -/
theorem after_net {h h' : Hold} {es : List Event} (ha : h.after es = some h') :
    (h.sessions : Int) + netSessions es = h'.sessions ∧ (h.entries : Int) + netEntries es = h'.entries := by
  induction es generalizing h with
  | nil =>
    obtain rfl := Option.some.inj ha
    exact ⟨Int.add_zero _, Int.add_zero _⟩
  | cons e es ih =>
    unfold after at ha
    rw [List.foldlM_cons] at ha
    obtain ⟨h₁, hn, hrest⟩ := Option.bind_eq_some_iff.1 ha
    have first := next_net hn
    have rest := ih hrest
    have net := net_cons e es
    omega

theorem after_of_prefix {h h' : Hold} {past es : List Event} (ha : h.after es = some h') (hp : past <+: es) :
    ∃ h₁, h.after past = some h₁ := by
  obtain ⟨rest, rfl⟩ := hp
  unfold after at ha
  rw [List.foldlM_append] at ha
  obtain ⟨h₁, hpast, -⟩ := Option.bind_eq_some_iff.1 ha
  exact ⟨h₁, hpast⟩

/-- **What happens in order and ends with nothing held is balanced.** -/
theorem balanced {es : List Event} (ha : nothing.after es = some nothing) : Balanced es := by
  have at_most (past : List Event) (hp : past <+: es) : ∃ h : Hold, netSessions past = h.sessions ∧
      netEntries past = h.entries := by
    obtain ⟨h, hpast⟩ := after_of_prefix ha hp
    have net := after_net hpast
    refine ⟨h, ?_, ?_⟩
    · simpa [Hold.sessions] using net.1
    · simpa [Hold.entries] using net.2
  constructor
  case sessions =>
    intro past hp
    obtain ⟨h, hs, -⟩ := at_most past hp
    rw [hs]
    cases h <;> decide
  case entries =>
    intro past hp
    obtain ⟨h, -, he⟩ := at_most past hp
    rw [he]
    cases h <;> decide
  case within =>
    intro past hp
    obtain ⟨h, hs, he⟩ := at_most past hp
    rw [hs, he]
    cases h <;> decide
  case removal =>
    intro past hp
    obtain ⟨h, hafter⟩ := after_of_prefix ha hp
    unfold after at hafter
    rw [List.foldlM_append] at hafter
    obtain ⟨h₁, hpast, hlast⟩ := Option.bind_eq_some_iff.1 hafter
    have free : h₁ = nothing := by
      cases h₁ with
      | nothing => rfl
      | session => cases hlast
      | entry => cases hlast
    subst free
    have net := after_net hpast
    simp only [Hold.sessions, Hold.entries] at net
    omega
  case settled =>
    have net := after_net ha
    simp only [Hold.sessions, Hold.entries] at net
    omega

end Hold

/-! ## Orders -/

section Orders

variable {γ : Type} [Background γ] {c : Controller γ Unit String} {cell : Cell γ Machine}

/-- **Every order gives back what it takes**, whatever the machine refuses and however the order ends: its account is
balanced, also while it waits for good, and it ends unless it is a run that has to wait for its workload or for its kill
signal. -/
theorem orders_balance (o : Oversees c cell) (order : Scenario.Order) (s : Scene γ)
    (sessions : (cell.get s.world).openSessions = 0) (entries : (cell.get s.world).openEntries = 0) :
    let ran := (carryOut c order).run.finish s
    (∃ es, (cell.get ran.2.world).history = es.reverse ++ (cell.get s.world).history ∧ Balanced es) ∧
      (cell.get ran.2.world).openSessions = 0 ∧ (cell.get ran.2.world).openEntries = 0 ∧
      ((order = .run → Finite c) → ran.1.isSome = true) := by
  intro ran
  have hs : Stands (cell.get s.world) .nothing (cell.get s.world).roll (cell.sight s) :=
    Stands.start (cell.sight s) sessions entries
  obtain ⟨⟨ρ, stands, -⟩, ends⟩ := carryOut_carried o order s hs
  obtain ⟨es, hafter, history⟩ := stands.events
  exact ⟨⟨es, history, Hold.balanced hafter⟩, stands.sessions, stands.entries, ends⟩

open Scenario.Shared (World machineCell) in
/-- A workload that looks at its service whenever it is called, and fails to stop. -/
theorem orders_balance_observing :
    let job : Scenario.Job := .scripted { observes := true, onStop := [{ ms := 30, failure := some ⟨"busy", []⟩ }] }
    let role : Scenario.Role := { config := { name := "svcA" }, job }
    let c : Controller World Unit String :=
      role.controller 0 (gateway machineCell) (terminator machineCell) (.ok "/bin/svc")
    let machine : Machine := { services := [("svcA", { spec := { name := "svcA" } })], script := [.interrogate, .stop] }
    let scene : Scene World := { world := { manager := { machine := machine }, actors := [{ job := job }] } }
    let looks : List Event := [.asked .connect, .sessionOpened, .asked .openEntry, .entryOpened, .asked .query,
      .entryClosed, .sessionClosed]
    Oversees c machineCell ∧ Finite c ∧ machine.openSessions = 0 ∧ machine.openEntries = 0 ∧
      ∃ r after, (carryOut c .run).run.finish scene = (some r, after) ∧
        (machineCell.get after.world).history = (.asked .dispatch :: looks ++ looks).reverse ∧
        Balanced (.asked .dispatch :: looks ++ looks) ∧
        (machineCell.get after.world).openSessions = 0 ∧ (machineCell.get after.world).openEntries = 0 := by
  intro job role c machine scene looks
  have o : Oversees c machineCell := role_oversees role 0 (.ok "/bin/svc")
  have finite : Finite c := role_finite rfl rfl 0 (.ok "/bin/svc")
  obtain ⟨⟨es, history, balanced⟩, hsessions, hentries, ends⟩ := orders_balance o .run scene rfl rfl
  obtain ⟨r, hr⟩ := Option.isSome_iff_exists.1 (ends fun _ => finite)
  have told : (machineCell.get ((carryOut c .run).run.finish scene).2.world).history
      = (.asked .dispatch :: looks ++ looks).reverse := by
    decide +kernel
  have same : es = .asked .dispatch :: looks ++ looks := by
    have hes := history.symm.trans told
    rw [show (machineCell.get scene.world).history = [] from rfl, List.append_nil] at hes
    exact List.reverse_inj.1 hes
  rw [same] at balanced
  generalize (carryOut c .run).run.finish scene = ran at hr told hsessions hentries ⊢
  obtain ⟨_, after⟩ := ran
  obtain rfl : _ = some r := hr
  exact ⟨o, finite, rfl, rfl, r, after, rfl, told, balanced, hsessions, hentries⟩

end Orders

end ServiceControl.Memory
