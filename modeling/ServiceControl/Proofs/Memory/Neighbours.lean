import ServiceControl.Proofs.Memory.Asked
import ServiceControl.Proofs.Memory.Processes
import ServiceControl.Proofs.Memory.Staged
/-!
# Services side by side

An order to the controller of one service does nothing to another: no entry and no log source under another name
changes, and no process is ended but the one that the service had.  A process is ended by its id, which is looked for
among all services, so this needs that the processes of a machine are in order, as they are wherever a machine gets
(`Arrived`).
Main statement: `orders_spare_others`.
-/
namespace ServiceControl.Memory

open Cell (Ensures Yields Keeps)

/-! ## What is kept under other names -/

/-- **Nothing has changed but what is kept under this name.** -/
structure Machine.Spares (name : String) (m m' : Machine) : Prop where
  entries : ∀ other, other ≠ name → m'.services.find? other = m.services.find? other
  sources : ∀ other, other ≠ name → m'.hasLogSource other = m.hasLogSource other

namespace Machine.Spares

variable {name : String} {m m' m'' : Machine}

theorem trans (h : m.Spares name m') (h' : m'.Spares name m'') : m.Spares name m'' where
  entries other hne := (h'.entries other hne).trans (h.entries other hne)
  sources other hne := (h'.sources other hne).trans (h.sources other hne)

/-- Neither the services nor the log sources have changed. -/
theorem same (services : m'.services = m.services) (sources : m'.logSources = m.logSources) : m.Spares name m' where
  entries other _ := by rw [services]
  sources other _ := by rw [hasLogSource, hasLogSource, sources]

theorem put {s : Service} (services : m'.services = m.services.put name s) (sources : m'.logSources = m.logSources) :
    m.Spares name m' where
  entries other hne := by rw [services, NameMap.find?_put, if_neg (Ne.symm hne)]
  sources other _ := by rw [hasLogSource, hasLogSource, sources]

theorem erase (services : m'.services = m.services.erase name) (sources : m'.logSources = m.logSources) :
    m.Spares name m' where
  entries other hne := by rw [services, NameMap.find?_erase, if_neg (Ne.symm hne)]
  sources other _ := by rw [hasLogSource, hasLogSource, sources]

theorem visits {operation : Operation} (v : m.Visits operation name m') : m.Spares name m' := by
  cases v with
  | absent => exact .same rfl rfl
  | found _ s' nextPid => exact .put rfl rfl

end Machine.Spares

open Machine (Spares)

/-- **A request that concerns one name does nothing to another.** -/
theorem serve_spares {name : String} {r : Request} (concerns : r.Concerns name) (now : Nat) (m : Machine) :
    m.Spares name (m.serve now r) := by
  have served {o : Except ServiceError Unit} {m' : Machine} (h : Answers (r.ask now) m o m')
      (spares : m.Spares name m') : m.Spares name (m.serve now r) := serve_eq h ▸ spares
  cases r with
  | connect =>
    cases h : m.deniesAccess with
    | true => exact served (connect_denied h) (.same rfl rfl)
    | false => exact served (connect_granted h) (.same rfl rfl)
  | openEntry other =>
    cases h : m.services.find? other with
    | none => exact served (openEntry_absent h).drop (.same rfl rfl)
    | some s => exact served (openEntry_found h).drop (.same rfl rfl)
  | create spec =>
    obtain rfl : spec.name = name := concerns
    cases h : m.services.find? spec.name with
    | none => exact served (create_free h).drop (.put rfl rfl)
    | some s => exact served (create_taken h).drop (.same rfl rfl)
  | query other =>
    obtain rfl : other = name := concerns
    obtain ⟨r, m', answers, visits⟩ := query_visits now m other
    exact served answers.drop (.visits visits)
  | start other =>
    obtain rfl : other = name := concerns
    obtain ⟨r, m', answers, visits⟩ := start_visits now m other
    exact served answers (.visits visits)
  | control other signal =>
    obtain rfl : other = name := concerns
    obtain ⟨r, m', answers, visits⟩ := control_visits now m other signal
    exact served answers.drop (.visits visits)
  | setRecovery other action =>
    obtain rfl : other = name := concerns
    obtain ⟨r, m', answers, visits⟩ := setRecovery_visits now m other action
    exact served answers (.visits visits)
  | delete other =>
    obtain rfl : other = name := concerns
    cases hf : m.failsDelete with
    | true => exact served (delete_refused hf) (.same rfl rfl)
    | false =>
      cases h : m.services.find? other with
      | none => exact served (delete_absent hf h) (.same rfl rfl)
      | some s => exact served (delete_found hf h) (.erase rfl rfl)
  | registerLogSource other =>
    obtain rfl : other = name := concerns
    cases h : m.failsLogRegistration || m.hasLogSource other with
    | true => exact served (registerLogSource_refused h) (.same rfl rfl)
    | false =>
      refine served (registerLogSource_granted h) ⟨fun _ _ => rfl, fun other' hne => ?_⟩
      have hsource := congrArg (Roll.sourced · other') (m.roll_source other)
      exact hsource.trans (by simp [Roll.source, Machine.roll, hne])
  | removeLogSource other =>
    obtain rfl : other = name := concerns
    cases h : m.failsLogRemoval || !m.hasLogSource other with
    | true => exact served (removeLogSource_refused h) (.same rfl rfl)
    | false =>
      refine served (removeLogSource_granted h) ⟨fun _ _ => rfl, fun other' hne => ?_⟩
      have hsource := congrArg (Roll.sourced · other') (m.roll_unsource other)
      exact hsource.trans (by simp [Roll.unsource, Machine.roll, hne])
  | takeScript => exact served takeScript_answers.drop (.same rfl rfl)
  | takeFault => exact served takeFault_answers (.same rfl rfl)
  | closeSession => exact .same rfl rfl
  | closeEntry => exact .same rfl rfl
  | keepReport report => exact .same rfl rfl
  | service other => exact concerns.elim
  | terminate pid => exact concerns.elim
  | set setting => exact concerns.elim
  | pass ms => exact concerns.elim

/-! ## What becomes of processes -/

/-- The process of the service under a name, if there is one. -/
def Ledger.process? (l : Ledger) (name : String) : Option Nat := (l.services.find? name).bind (·.phase.process?)

/-- **A process is not exchanged for another but by a start.** -/
theorem Change.process {l l' : Ledger} {t : Turn} (c : Change l t l') (unstarted : t.starts = false) (name : String) :
    l'.process? name = Option.none ∨ l'.process? name = l.process? name := by
  have putting {at' : String} {s' : Service} {nextPid : Nat} {terminated : List Nat}
      (h : s'.phase.process? = Option.none ∨ s'.phase.process? = l.process? at') :
      Ledger.process? ⟨l.services.put at' s', nextPid, terminated⟩ name = Option.none ∨
        Ledger.process? ⟨l.services.put at' s', nextPid, terminated⟩ name = l.process? name := by
    unfold Ledger.process? at h ⊢
    rw [NameMap.find?_put]
    split
    · rename_i here
      subst here
      exact h
    · exact .inr rfl
  cases c with
  | none => exact .inr rfl
  | @updated _ at' s s' _ _ found spec process =>
    refine putting ?_
    rcases process with stopped | kept
    · exact .inl (by rw [stopped]; rfl)
    · exact .inr (by rw [kept, Ledger.process?, found]; rfl)
  | created => exact putting (.inl rfl)
  | @deleted _ at' =>
    unfold Ledger.process?
    rw [NameMap.find?_erase]
    split
    · exact .inl rfl
    · exact .inr rfl
  | started => cases unstarted
  | terminated => exact putting (.inl rfl)

/-- Only the end of a process is kept as one. -/
theorem Change.kept {l l' : Ledger} {t : Turn} (c : Change l t l') (unended : t.ended = Option.none) :
    l'.terminated = l.terminated := by
  cases c with
  | terminated => cases unended
  | _ => rfl

namespace Request

variable {name : String} {r : Request} (concerns : r.Concerns name) (o : Except ServiceError Unit)
include concerns

theorem Concerns.unstarted (other : r ≠ .start name) : Turn.starts (r, o) = false := by
  cases r with
  | start other' =>
    obtain rfl : other' = name := concerns
    exact absurd rfl other
  | _ => rfl

theorem Concerns.unended : Turn.ended (r, o) = none := by
  cases r with
  | terminate pid => exact concerns.elim
  | _ => rfl

end Request

/-! ## What is told of processes -/

section Told

variable {m m' : Machine} {name : String} {now : Nat} {status : ServiceStatus}

/-- The process that a service has once it was brought up to date, it had before. -/
theorem process_of_refresh {s : Service} {behavior : StopBehavior} (found : m.services.find? name = some s)
    (process : (s.refresh now behavior).status.processId ≠ 0) :
    m.ledger.process? name = some (s.refresh now behavior).status.processId := by
  have told := process?_eq_some process
  rcases refresh_process s now behavior with stopped | kept
  · rw [stopped] at told
    cases told
  · rw [Ledger.process?, show m.ledger.services.find? name = some s from found]
    exact kept.symm.trans told

/-- **A look at a service tells of its own process.** -/
theorem query_process (h : Answers (query now name) m (.ok status) m') (process : status.processId ≠ 0) :
    m.ledger.process? name = some status.processId := by
  cases found : m.services.find? name with
  | none => cases (h.unique (query_absent found)).1
  | some s =>
    obtain rfl := Except.ok.inj (h.unique (query_found found)).1
    exact process_of_refresh found process

theorem stop_process (h : Answers (control now name .stop) m (.ok status) m') (process : status.processId ≠ 0) :
    m.ledger.process? name = some status.processId := by
  cases found : m.services.find? name with
  | none => cases (h.unique (control_absent found _)).1
  | some s =>
    cases hp : (s.refresh now m.stopBehavior).phase with
    | stopped => cases (h.unique (control_stop_stopped found hp)).1
    | stopping pid since => cases (h.unique (control_stop_stopping found hp)).1
    | running pid =>
      by_cases hb : m.stopBehavior = .reject
      · cases (h.unique (control_stop_rejected found hp hb)).1
      · obtain rfl := Except.ok.inj (h.unique (control_stop_accepted found hp hb)).1
        -- a service that stops at once tells of no process, any other of the one that it had
        have running : (s.refresh now m.stopBehavior).status.processId = pid := by
          rw [Service.status, hp]
          rfl
        rcases Phase.refresh_cases now m.stopBehavior (.stopping pid now) with stopped | kept
        · rw [stopped] at process
          exact absurd rfl process
        · rw [kept] at process ⊢
          rw [← running] at process ⊢
          exact process_of_refresh found process

end Told

/-! ## One order -/

/-- No other service has this process. -/
def Machine.Own (m : Machine) (name : String) (pid : Nat) : Prop :=
  ∀ other s, other ≠ name → m.services.find? other = some s → s.hasProcess pid = false

/-- A process that is told of is that of no other service. -/
theorem own_of_process {m : Machine} (sound : m.ledger.Sound) {name : String} {pid : Nat}
    (told : pid ≠ 0 → m.ledger.process? name = some pid) : m.Own name pid := by
  intro other s hne found
  rw [Bool.eq_false_iff]
  intro hp
  obtain ⟨positive, process⟩ := hasProcess_iff.1 hp
  obtain ⟨s', found', process'⟩ := Option.bind_eq_some_iff.1 (told positive)
  exact hne (sound.apart found process found' process')

/-- **The process of the service was ended, or goes on or not by itself.** -/
inductive Spent (name : String) (before : Machine) (l : Ledger) : Prop
  | kept (terminated : l.terminated = before.terminated)
      (process : l.process? name = none ∨ l.process? name = before.ledger.process? name)
  | ended {pid : Nat} (was : before.ledger.process? name = some pid)
      (terminated : l.terminated = pid :: before.terminated) (gone : l.process? name = none)

/-- **Since it was as before, what the machine was asked concerned this name**, and no process was started. -/
structure Aside (name : String) (before m : Machine) : Prop where
  sound : m.ledger.Sound
  spares : before.Spares name m
  spent : Spent name before m.ledger

/-- What there is after an order to the controller of a name. -/
structure Beside (name : String) (before m : Machine) : Prop where
  spares : before.Spares name m
  ended : m.terminated = before.terminated ∨
    ∃ pid, before.ledger.process? name = some pid ∧ m.terminated = pid :: before.terminated

namespace Aside

variable {name : String} {before m : Machine}

theorem start (sound : m.ledger.Sound) : Aside name m m :=
  ⟨sound, .same rfl rfl, .kept rfl (.inr rfl)⟩

theorem beside (h : Aside name before m) : Beside name before m := by
  refine ⟨h.spares, ?_⟩
  cases h.spent with
  | kept terminated _ => exact .inl terminated
  | ended was terminated _ => exact .inr ⟨_, was, terminated⟩

theorem serve (h : Aside name before m) {r : Request} (concerns : r.Concerns name) (other : r ≠ .start name)
    (now : Nat) : Aside name before (m.serve now r) := by
  obtain ⟨o, change⟩ := serve_change m now r
  have terminated := change.kept (concerns.unended o)
  have process := change.process (concerns.unstarted o other) name
  refine ⟨h.sound.change change, h.spares.trans (serve_spares concerns now m), ?_⟩
  cases h.spent with
  | kept terminated' process' =>
    refine .kept (terminated.trans terminated') ?_
    rcases process with gone | same
    · exact .inl gone
    · rwa [same]
  | ended was terminated' gone =>
    refine .ended was (terminated.trans terminated') ?_
    rcases process with gone' | same
    · exact gone'
    · exact same.trans gone

/-- A process that no other service has ends for this one. -/
theorem terminate (h : Aside name before m) {pid : Nat} (own : before.Own name pid) (now : Nat) :
    Aside name before (m.serve now (.terminate pid)) := by
  cases hf : List.find? (fun entry => entry.2.hasProcess pid) m.services with
  | none =>
    have served : m.serve now (.terminate pid) = m := serve_eq (terminate_unknown hf)
    rwa [served]
  | some entry =>
    obtain ⟨found', s⟩ := entry
    obtain ⟨found, hp⟩ := h.sound.find?_process.1 hf
    -- whatever service the process was found with, it is this one, since no other had it
    obtain rfl : found' = name := by
      refine Decidable.byContradiction fun hne => ?_
      have found := (h.spares.entries _ hne).symm.trans found
      exact absurd hp (Bool.eq_false_iff.1 (own _ s hne found))
    have process : m.ledger.process? found' = some pid :=
      Option.bind_eq_some_iff.2 ⟨s, found, (hasProcess_iff.1 hp).2⟩
    have sound := h.sound.change (.terminated hf)
    have served : m.serve now (.terminate pid) = _ := serve_eq (terminate_found hf)
    rw [served]
    refine ⟨sound, h.spares.trans (.put rfl rfl), ?_⟩
    cases h.spent with
    | kept terminated process' =>
      have was : before.ledger.process? found' = some pid := by
        rcases process' with gone | same
        · cases gone.symm.trans process
        · exact same.symm.trans process
      refine .ended was (congrArg (pid :: ·) terminated) ?_
      show (NameMap.find? found' (m.services.put found' _)).bind _ = none
      rw [NameMap.find?_put, if_pos rfl]
      rfl
    | ended _ _ gone => cases gone.symm.trans process

/-- The process of another service is not told of. -/
theorem own (h : Aside name before m) {pid : Nat} (told : pid ≠ 0 → m.ledger.process? name = some pid) :
    before.Own name pid := by
  intro other s hne found
  exact own_of_process h.sound told other s hne ((h.spares.entries other hne).trans found)

end Aside

theorem Beside.serve {name : String} {before m : Machine} (h : Beside name before m) {r : Request}
    (concerns : r.Concerns name) (now : Nat) : Beside name before (m.serve now r) := by
  obtain ⟨o, change⟩ := serve_change m now r
  have terminated := change.kept (concerns.unended o)
  refine ⟨h.spares.trans (serve_spares concerns now m), ?_⟩
  rcases h.ended with same | ⟨pid, was, one⟩
  · exact .inl (terminated.trans same)
  · exact .inr ⟨pid, was, terminated.trans one⟩

section Orders

variable {γ : Type} [Background γ] {c : Controller γ Unit String} {cell : Cell γ Machine}

theorem Governs.terminate_serves (g : Governs c cell) (pid : Nat) (s : Scene γ) :
    cell.get ((c.terminate pid).run s).2.world = (cell.get s.world).serve s.now (.terminate pid) := by
  rw [g.terminate]
  exact g.quiet.get_set _ _

/-- **An order to a controller ends and leaves what is beside its service alone.** -/
theorem Governs.carryOut_beside (g : Governs c cell) {before : Machine} {order : Scenario.Order} (ends : order ≠ .run) :
    cell.Yields (fun σ => Aside c.name before σ.held) (carryOut c order) fun _ σ => Beside c.name before σ.held := by
  have lawful := g.quiet.toLawful
  have timeless : Cell.Timeless fun σ : Sight Machine => Aside c.name before σ.held := fun _ _ hσ => hσ
  have heeds : c.Heeds cell (fun σ => Aside c.name before σ.held) (· = c.name) (before.Own c.name) := by
    refine heeds_of_requests g.gateway lawful (fun r now m concerns other h => h.serve concerns other now) ?_ ?_ ?_
    · exact fun m now status m' h answers => h.own (query_process answers)
    · exact fun m now status m' h answers => h.own (stop_process answers)
    · intro pid s own h
      rw [g.terminate_serves]
      exact h.terminate own s.now
  have hstart (entry : String) (mine : entry = c.name) : cell.Yields (fun σ => Aside c.name before σ.held)
      (c.gateway.start entry) fun _ σ => Beside c.name before σ.held := by
    rw [g.gateway, mine]
    refine askingNow_yields lawful fun σ hσ => ⟨_, _, rfl, ?_⟩
    exact hσ.beside.serve (r := .start c.name) rfl σ.now
  have hclose (entry : String) : cell.Ensures (fun σ => Beside c.name before σ.held) (c.gateway.closeEntry entry)
      fun _ σ => Beside c.name before σ.held := by
    rw [g.gateway]
    exact onMachine_ensures lawful fun σ hσ => hσ.serve (r := .closeEntry) trivial σ.now
  have hleave (session : Unit) : cell.Ensures (fun σ => Beside c.name before σ.held) (c.gateway.closeSession session)
      fun _ σ => Beside c.name before σ.held := by
    rw [g.gateway]
    exact onMachine_ensures lawful fun σ hσ => hσ.serve (r := .closeSession) trivial σ.now
  cases order with
  | install => exact (Yields.call heeds.install_keeps).weaken fun _ σ hσ => hσ.beside
  | uninstall => exact (heeds.uninstall_keeps g.quiet.toStill timeless).weaken fun _ σ hσ => hσ.beside
  | start => exact Yields.call (heeds.start_leads hstart (fun σ hσ => hσ.beside) hclose hleave)
  | stop => exact (heeds.stop_keeps g.quiet.toStill timeless).weaken fun _ σ hσ => hσ.beside
  | restart => exact heeds.restart_leads g.quiet.toStill timeless hstart (fun σ hσ => hσ.beside) hclose hleave
  | status => exact (Yields.act heeds.status_keeps).bind_ok fun _ => .pure fun σ hσ => hσ.beside
  | run => exact absurd rfl ends

/-! ## Any number of them -/

/-- **Where a machine gets from empty** by what it is asked at any times, and by what controllers do with it one after
another, to the end or for as long as they go on.  What they have done when they are given up are requests. -/
inductive Arrived (cell : Cell γ Machine) : Scene γ → Prop
  | empty {s : Scene γ} (fresh : cell.get s.world = {}) : Arrived cell s
  | request {s after : Scene γ} (h : Arrived cell s) (now : Nat) (r : Request)
      (done : cell.get after.world = (cell.get s.world).serve now r) : Arrived cell after
  | order {s : Scene γ} {c : Controller γ Unit String} (h : Arrived cell s) (o : Oversees c cell)
      (terminates : ∀ pid s, cell.get ((c.terminate pid).run s).2.world = cell.get s.world ∨
        cell.get ((c.terminate pid).run s).2.world = (cell.get s.world).serve s.now (.terminate pid))
      (order : Scenario.Order) : Arrived cell ((carryOut c order).run.finish s).2

/-- Wherever it gets, its processes are in order. -/
theorem Arrived.sound {s : Scene γ} (h : Arrived cell s) : (cell.get s.world).ledger.Sound := by
  have kept (r : Request) (now : Nat) (m : Machine) (hm : m.ledger.Sound) : (m.serve now r).ledger.Sound := by
    obtain ⟨o, change⟩ := serve_change m now r
    exact hm.change change
  induction h with
  | empty fresh =>
    rw [fresh]
    exact .empty
  | request _ now r done ih =>
    rw [done]
    exact kept r now _ ih
  | order _ o terminates order ih =>
    refine (o.carryOut_keeps (fun r now m _ => kept r now m) (fun pid s hs => ?_) order _ ih).1
    rcases terminates pid s with same | serves
    · rwa [same]
    · rw [serves]
      exact kept _ _ _ hs

/-- **Services do not disturb each other.**  Wherever the machine has got to, an order to the controller of a service
comes to its end, the entries and log sources of all others are what they were, and if a process was ended, it is the
one that the service had. -/
theorem orders_spare_others {s : Scene γ} (h : Arrived cell s) (g : Governs c cell)
    {order : Scenario.Order} (ends : order ≠ .run) : ∃ r after, (carryOut c order).run.finish s = (some r, after) ∧
      let m := cell.get s.world
      let m' := cell.get after.world
      (∀ other, other ≠ c.name →
        m'.services.find? other = m.services.find? other ∧ m'.hasLogSource other = m.hasLogSource other) ∧
      (m'.terminated = m.terminated ∨
        ∃ pid, m.ledger.process? c.name = some pid ∧ m'.terminated = pid :: m.terminated) := by
  obtain ⟨r, hr, beside⟩ := g.carryOut_beside ends s (Aside.start h.sound)
  refine ⟨r, _, Prod.ext hr rfl, fun other hne => ?_, beside.ended⟩
  exact ⟨beside.spares.entries other hne, beside.spares.sources other hne⟩

open Scenario.Shared (World machineCell machineCell_undisturbed) in
/-- Of two services that do not stop when they are asked to, one is restarted, and its process is ended by force. -/
theorem orders_spare_others_restarted :
    let control (name : String) : Controller World Unit String :=
      Scenario.Role.controller { config := { name } } 0 (gateway machineCell) (terminator machineCell) (.ok "/bin/svc")
    let order (name : String) (order : Scenario.Order) (s : Scene World) : Scene World :=
      ((carryOut (control name) order).run.finish s).2
    let set (setting : Setting) (s : Scene World) : Scene World :=
      { s with world := machineCell.set ((machineCell.get s.world).set setting) s.world }
    let first : Scene World := set (.stopTimeout 300) (set (.stopBehavior .never) { world := { manager := {} } })
    let installed := order "svcB" .install (order "svcA" .install first)
    let started := order "svcB" .start (order "svcA" .start installed)
    let m := machineCell.get started.world
    Arrived machineCell started ∧ m.ledger.process? "svcA" = some 1000 ∧ m.ledger.process? "svcB" = some 1001 ∧
      ∃ r after, (carryOut (control "svcB") .restart).run.finish started = (some r, after) ∧
        let m' := machineCell.get after.world
        m'.services.find? "svcA" = m.services.find? "svcA" ∧ m'.hasLogSource "svcA" = m.hasLogSource "svcA" ∧
        m'.terminated = [1001] := by
  intro control order set first installed started m
  have o (name : String) : Oversees (control name) machineCell := role_oversees _ 0 _
  have g (name : String) : Governs (control name) machineCell := ⟨rfl, rfl, machineCell_undisturbed⟩
  have sets {s : Scene World} (h : Arrived machineCell s) (setting : Setting) : Arrived machineCell (set setting s) :=
    h.request 0 (.set setting) rfl
  have carries {s : Scene World} (h : Arrived machineCell s) (name : String) (what : Scenario.Order) :
      Arrived machineCell (order name what s) :=
    h.order (o name) (fun pid s => .inr ((g name).terminate_serves pid s)) what
  have h₀ : Arrived machineCell first := sets (sets (.empty rfl) (.stopBehavior .never)) (.stopTimeout 300)
  have h₁ : Arrived machineCell installed := carries (carries h₀ "svcA" .install) "svcB" .install
  have arrived : Arrived machineCell started := carries (carries h₁ "svcA" .start) "svcB" .start
  have processes : m.ledger.process? "svcA" = some 1000 ∧ m.ledger.process? "svcB" = some 1001 := by decide +kernel
  have forced : (machineCell.get (order "svcB" .restart started).world).terminated = [1001] := by decide +kernel
  clear_value started
  have restart : Scenario.Order.restart ≠ .run := nofun
  obtain ⟨r, after, done, others, -⟩ := orders_spare_others arrived (g "svcB") restart
  obtain ⟨entry, source⟩ := others "svcA" (by decide)
  refine ⟨arrived, processes.1, processes.2, r, after, done, entry, source, ?_⟩
  rw [← forced]
  exact congrArg (fun end' => (machineCell.get end'.2.world).terminated) done.symm

end Orders

end ServiceControl.Memory
