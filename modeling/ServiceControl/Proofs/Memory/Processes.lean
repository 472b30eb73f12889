import ServiceControl.Proofs.Memory.Requests
/-!
# Processes of the memory manager

Process ids are issued in order and none twice, and a process that was ended by force is that of no service any more.  Main
statement: whatever a machine is asked, one thing after another, its processes are in order (`processes_in_order`).
-/
namespace ServiceControl.Memory

/-! ## The invariant -/

/-- **What every turn keeps.** -/
structure Ledger.Sound (l : Ledger) : Prop where
  distinct : l.services.keys.Nodup
  named : ∀ {name s}, l.services.find? name = some s → s.spec.name = name
  base : 1000 ≤ l.nextPid
  issued : ∀ {name s pid}, l.services.find? name = some s → s.phase.process? = some pid → 1000 ≤ pid ∧ pid < l.nextPid
  apart : ∀ {name name' s s' pid}, l.services.find? name = some s → s.phase.process? = some pid →
    l.services.find? name' = some s' → s'.phase.process? = some pid → name = name'
  once : l.terminated.Nodup
  past : ∀ pid ∈ l.terminated, 1000 ≤ pid ∧ pid < l.nextPid
  gone : ∀ {name s pid}, l.services.find? name = some s → s.phase.process? = some pid → pid ∉ l.terminated

namespace Ledger.Sound

variable {l : Ledger} {name : String} {s s' : Service} {pid : Nat}

theorem empty : Sound ⟨[], 1000, []⟩ where
  distinct := List.nodup_nil
  named := nofun
  base := Nat.le_refl _
  issued := nofun
  apart := nofun
  once := List.nodup_nil
  past := nofun
  gone := nofun

/-- A service can be put under its name if its process, if it has one, is that of no other. -/
theorem put (h : l.Sound) (named : s'.spec.name = name) (next : Nat) (later : l.nextPid ≤ next)
    (process : ∀ pid, s'.phase.process? = some pid → 1000 ≤ pid ∧ pid < next ∧ pid ∉ l.terminated ∧
      ∀ other s, other ≠ name → l.services.find? other = some s → s.phase.process? ≠ some pid) :
    Sound ⟨l.services.put name s', next, l.terminated⟩ := by
  have cases {other : String} {s : Service} (hf : (l.services.put name s').find? other = some s) :
      other = name ∧ s = s' ∨ other ≠ name ∧ l.services.find? other = some s := by
    rw [NameMap.find?_put] at hf
    split at hf
    · rename_i he
      exact .inl ⟨he.symm, (Option.some.inj hf).symm⟩
    · rename_i he
      exact .inr ⟨fun h => he h.symm, hf⟩
  constructor
  case distinct => exact NameMap.nodup_keys_put h.distinct
  case named =>
    intro other s hf
    obtain ⟨rfl, rfl⟩ | ⟨-, hf⟩ := cases hf
    · exact named
    · exact h.named hf
  case base => exact Nat.le_trans h.base later
  case issued =>
    intro other s pid hf hp
    obtain ⟨rfl, rfl⟩ | ⟨-, hf⟩ := cases hf
    · obtain ⟨hlow, hhigh, -⟩ := process pid hp
      exact ⟨hlow, hhigh⟩
    · obtain ⟨hlow, hhigh⟩ := h.issued hf hp
      exact ⟨hlow, Nat.lt_of_lt_of_le hhigh later⟩
  case apart =>
    intro one two s₁ s₂ pid h₁ p₁ h₂ p₂
    obtain ⟨rfl, rfl⟩ | ⟨n₁, f₁⟩ := cases h₁ <;> obtain ⟨rfl, rfl⟩ | ⟨n₂, f₂⟩ := cases h₂
    · rfl
    · exact absurd p₂ ((process pid p₁).2.2.2 two s₂ n₂ f₂)
    · exact absurd p₁ ((process pid p₂).2.2.2 one s₁ n₁ f₁)
    · exact h.apart f₁ p₁ f₂ p₂
  case once => exact h.once
  case past =>
    intro pid hmem
    obtain ⟨hlow, hhigh⟩ := h.past pid hmem
    exact ⟨hlow, Nat.lt_of_lt_of_le hhigh later⟩
  case gone =>
    intro other s pid hf hp
    obtain ⟨rfl, rfl⟩ | ⟨-, hf⟩ := cases hf
    · exact (process pid hp).2.2.1
    · exact h.gone hf hp

/-- A service that has stopped has no process that could clash. -/
theorem put_stopped (h : l.Sound) (named : s'.spec.name = name) (stopped : s'.phase = .stopped) :
    Sound { l with services := l.services.put name s' } := by
  refine h.put named l.nextPid (Nat.le_refl _) ?_
  intro pid hp
  rw [stopped] at hp
  cases hp

theorem put_kept (h : l.Sound) (found : l.services.find? name = some s) (spec : s'.spec = s.spec)
    (process : s'.phase.process? = s.phase.process?) : Sound { l with services := l.services.put name s' } := by
  have named : s'.spec.name = name := by rw [spec, h.named found]
  refine h.put named l.nextPid (Nat.le_refl _) ?_
  intro pid hp
  rw [process] at hp
  obtain ⟨hlow, hhigh⟩ := h.issued found hp
  refine ⟨hlow, hhigh, h.gone found hp, ?_⟩
  intro other s' hne hf hp'
  exact hne (h.apart hf hp' found hp)

theorem put_started (h : l.Sound) (found : l.services.find? name = some s) (spec : s'.spec = s.spec)
    (phase : s'.phase = .running l.nextPid) :
    Sound { l with services := l.services.put name s', nextPid := l.nextPid + 1 } := by
  have named : s'.spec.name = name := by rw [spec, h.named found]
  refine h.put named (l.nextPid + 1) (Nat.le_succ _) ?_
  intro pid hp
  rw [phase] at hp
  obtain rfl := Option.some.inj hp
  -- the next id is above all that were issued
  refine ⟨h.base, Nat.lt_succ_self _, ?_, ?_⟩
  · intro hmem
    exact Nat.lt_irrefl _ (h.past _ hmem).2
  · intro other s' hne hf hp'
    exact Nat.lt_irrefl _ (h.issued hf hp').2

theorem erase (h : l.Sound) (name : String) : Sound { l with services := l.services.erase name } := by
  have found {other : String} {s : Service} (hf : (l.services.erase name).find? other = some s) :
      l.services.find? other = some s := by
    rw [NameMap.find?_erase] at hf
    split at hf
    · cases hf
    · exact hf
  constructor
  case distinct => exact NameMap.nodup_keys_erase h.distinct
  case named =>
    intro other s hf
    exact h.named (found hf)
  case base => exact h.base
  case issued =>
    intro other s pid hf
    exact h.issued (found hf)
  case apart =>
    intro one two s₁ s₂ pid h₁ p₁ h₂ p₂
    exact h.apart (found h₁) p₁ (found h₂) p₂
  case once => exact h.once
  case past => exact h.past
  case gone =>
    intro other s pid hf
    exact h.gone (found hf)

/-- The end of a process that was that of a service. -/
theorem terminate (h : l.Sound) (found : l.services.find? name = some s) (process : s.phase.process? = some pid) :
    Sound { l with
      services := l.services.put name { s with phase := .stopped }, terminated := pid :: l.terminated } := by
  have named : s.spec.name = name := h.named found
  have hput : Sound { l with services := l.services.put name { s with phase := .stopped } } := h.put_stopped named rfl
  constructor
  case distinct => exact hput.distinct
  case named => exact hput.named
  case base => exact hput.base
  case issued => exact hput.issued
  case apart => exact hput.apart
  case once => exact List.nodup_cons.2 ⟨h.gone found process, h.once⟩
  case past =>
    intro pid' hmem
    rcases List.mem_cons.1 hmem with rfl | hmem
    · exact h.issued found process
    · exact h.past pid' hmem
  case gone =>
    intro other s' pid' hf hp hmem
    rcases List.mem_cons.1 hmem with rfl | hmem
    · rw [NameMap.find?_put] at hf
      split at hf
      · obtain rfl := Option.some.inj hf
        cases hp
      · rename_i hne
        exact hne (h.apart found process hf hp)
    · exact hput.gone hf hp hmem

end Ledger.Sound

/-! ## One service for one process -/

theorem hasProcess_iff {s : Service} {pid : Nat} : s.hasProcess pid = true ↔ pid ≠ 0 ∧ s.phase.process? = some pid := by
  obtain ⟨spec, recovery, starts, phase⟩ := s
  cases phase with
  | stopped =>
    simp [Service.hasProcess, Service.status, Phase.status, ServiceStatus.stopped, Phase.process?]
    omega
  | running p => simp [Service.hasProcess, Service.status, Phase.status, Phase.process?]
  | stopping p since => simp [Service.hasProcess, Service.status, Phase.status, Phase.process?]

namespace Ledger.Sound

variable {l : Ledger} {name : String} {s : Service} {pid : Nat}

/-- **A process is that of one service**, which is found however the services are gone through. -/
theorem find?_process (h : l.Sound) :
    List.find? (fun entry => entry.2.hasProcess pid) l.services = some (name, s) ↔
      l.services.find? name = some s ∧ s.hasProcess pid = true := by
  have found {name : String} {s : Service}
      (hf : List.find? (fun entry => entry.2.hasProcess pid) l.services = some (name, s)) :
      l.services.find? name = some s ∧ s.hasProcess pid = true := by
    have hp := List.find?_some hf
    exact ⟨NameMap.find?_of_mem h.distinct (List.mem_of_find?_eq_some hf), hp⟩
  refine ⟨found, ?_⟩
  rintro ⟨hf, hp⟩
  cases hfound : List.find? (fun entry => entry.2.hasProcess pid) l.services with
  | none => exact absurd hp (List.find?_eq_none.1 hfound _ (NameMap.mem_of_find? hf))
  | some entry =>
    obtain ⟨name', s'⟩ := entry
    obtain ⟨hf', hp'⟩ := found hfound
    obtain rfl := h.apart hf' (hasProcess_iff.1 hp').2 hf (hasProcess_iff.1 hp).2
    obtain rfl := Option.some.inj (hf'.symm.trans hf)
    rfl

theorem find?_process_eq_none (h : l.Sound) :
    List.find? (fun entry => entry.2.hasProcess pid) l.services = none ↔
      ∀ name s, l.services.find? name = some s → s.hasProcess pid = false := by
  rw [List.find?_eq_none]
  constructor
  · intro hn name s hf
    exact Bool.eq_false_iff.2 (hn _ (NameMap.mem_of_find? hf))
  · rintro hn ⟨name, s⟩ hmem
    exact Bool.eq_false_iff.1 (hn name s (NameMap.find?_of_mem h.distinct hmem))

theorem perm (h : l.Sound) {services : NameMap Service} (p : services.Perm l.services) :
    Sound { l with services } := by
  have found {name : String} {s : Service} (hf : services.find? name = some s) : l.services.find? name = some s := by
    rwa [NameMap.find?_perm h.distinct p] at hf
  constructor
  case distinct => exact (p.map _).nodup_iff.2 h.distinct
  case named =>
    intro other s hf
    exact h.named (found hf)
  case base => exact h.base
  case issued =>
    intro other s pid hf
    exact h.issued (found hf)
  case apart =>
    intro one two s₁ s₂ pid h₁ p₁ h₂ p₂
    exact h.apart (found h₁) p₁ (found h₂) p₂
  case once => exact h.once
  case past => exact h.past
  case gone =>
    intro other s pid hf
    exact h.gone (found hf)

theorem change (h : l.Sound) {t : Turn} {l' : Ledger} (c : Change l t l') : l'.Sound := by
  cases c with
  | none => exact h
  | updated _ _ found spec process =>
    rcases process with stopped | kept
    · have named := h.named found
      rw [← spec] at named
      exact h.put_stopped named stopped
    · exact h.put_kept found spec kept
  | created _ _ free => exact h.put_stopped rfl rfl
  | deleted => exact h.erase _
  | started found spec phase => exact h.put_started found spec phase
  | terminated found =>
    obtain ⟨hf, hp⟩ := h.find?_process.1 found
    exact h.terminate hf (hasProcess_iff.1 hp).2

end Ledger.Sound

/-- The counters of a ledger tell how often a process was started, and which were ended. -/
def Ledger.Counts (l : Ledger) (turns : List Turn) : Prop :=
  l.nextPid = 1000 + turns.countP Turn.starts ∧ l.terminated = turns.filterMap Turn.ended

theorem Ledger.Counts.change {l l' : Ledger} {turns : List Turn} {t : Turn} (h : l.Counts turns) (c : Change l t l') :
    l'.Counts (t :: turns) := by
  obtain ⟨hn, ht⟩ := h
  cases c with
  | started =>
    refine ⟨?_, ht⟩
    rw [List.countP_cons_of_pos rfl, hn]
    rfl
  | terminated => exact ⟨hn, congrArg (List.cons _) ht⟩
  | none starts ended | updated starts ended | created starts ended | deleted starts ended =>
    have goesOn : ¬ t.starts = true := Bool.eq_false_iff.1 starts
    constructor
    · rw [List.countP_cons_of_neg goesOn, hn]
    · rw [List.filterMap_cons_none ended, ht]

/-! ## Traces -/

def Trace.Sound (t : Trace) : Prop := t.machine.ledger.Sound ∧ t.machine.ledger.Counts t.turns

theorem Trace.serve_sound {t : Trace} (h : t.Sound) (r : Request) : (t.serve r).Sound := by
  obtain ⟨o, m', ha, hc⟩ := ask_change r t.now t.machine
  have hrun : (r.ask t.now).run.run t.machine = (o, m') := ha
  unfold Trace.serve
  rw [hrun]
  exact ⟨h.1.change hc, h.2.change hc⟩

theorem Trace.serveAll_sound {t : Trace} (h : t.Sound) (rs : List Request) : (t.serveAll rs).Sound := by
  induction rs generalizing t with
  | nil => exact h
  | cons r rs ih => exact ih (serve_sound h r)

theorem Trace.empty_sound (now : Nat) : (empty now).Sound := ⟨.empty, rfl, rfl⟩

/-! ## What a user sees -/

/-- When a service was asked to stop, if it has not stopped since. -/
def Service.stopRequest? (s : Service) : Option Nat :=
  match s.phase with
  | .stopping _ since => some since
  | _ => none

/-- **An entry tells one thing**: its name, its state, its process and the request to stop fit together. -/
structure Service.Fits (s : Service) (name : String) : Prop where
  name : s.spec.name = name
  state : s.status.state = .stopped ∨ s.status.state = .running ∨ s.status.state = .stopPending
  process : s.status.processId = 0 ↔ s.status.state = .stopped
  request : s.stopRequest?.isSome ↔ s.status.state = .stopPending

/-- What ending a process by force can do. -/
structure Machine.EndsOne (m : Machine) (pid : Nat) : Prop where
  /-- The one service with the process stops, and nothing else becomes of any; or there is none. -/
  single : ∀ {r m'}, Answers (terminate pid) m r m' →
    (r = .error (.processNotFound pid) ∧ m' = m) ∨
    ∃ name s, m.services.find? name = some s ∧ s.status.processId = pid ∧ r = .ok () ∧
      m' = { m.withService name { s with phase := .stopped } with terminated := pid :: m.terminated }
  /-- The services may be gone through in any order. -/
  unordered : ∀ {r m'} {services : NameMap Service}, services.Perm m.services → Answers (terminate pid) m r m' →
    ∃ m'', Answers (terminate pid) { m with services } r m'' ∧ m''.terminated = m'.terminated ∧
      ∀ name, m''.services.find? name = m'.services.find? name

/-- **The processes of a machine are in order** after these turns. -/
structure Machine.InOrder (m : Machine) (turns : List Turn) : Prop where
  distinct : m.services.keys.Nodup
  fits : ∀ name s, m.services.find? name = some s → s.Fits name
  issued : ∀ name s, m.services.find? name = some s → s.status.processId ≠ 0 →
    1000 ≤ s.status.processId ∧ s.status.processId < m.nextPid
  apart : ∀ name name' s s', m.services.find? name = some s → m.services.find? name' = some s' →
    s.status.processId ≠ 0 → s.status.processId = s'.status.processId → name = name'
  started : m.nextPid = 1000 + turns.countP Turn.starts
  ended : m.terminated = turns.filterMap Turn.ended
  once : m.terminated.Nodup
  past : ∀ pid ∈ m.terminated, 1000 ≤ pid ∧ pid < m.nextPid
  gone : ∀ pid ∈ m.terminated, ∀ name s, m.services.find? name = some s → s.status.processId ≠ pid
  endsOne : ∀ pid, m.EndsOne pid
  /-- A process that was ended is not found again. -/
  endsOnce : ∀ pid ∈ m.terminated, Answers (terminate pid) m (.error (.processNotFound pid)) m

section InOrder

variable {m : Machine} {turns : List Turn} {name : String} {s : Service} {pid : Nat}

theorem process?_eq_some (h : s.status.processId ≠ 0) : s.phase.process? = some s.status.processId := by
  obtain ⟨spec, recovery, starts, phase⟩ := s
  cases phase with
  | stopped => exact absurd rfl h
  | running pid => rfl
  | stopping pid since => rfl

theorem processId_of_hasProcess (h : s.hasProcess pid = true) : s.status.processId = pid := by
  unfold Service.hasProcess at h
  exact eq_of_beq (Bool.and_eq_true_iff.1 h).2

theorem fits_of_sound (h : m.ledger.Sound) (found : m.services.find? name = some s) : s.Fits name where
  name := h.named found
  state := by
    obtain ⟨spec, recovery, starts, phase⟩ := s
    cases phase with
    | stopped => exact .inl rfl
    | running pid => exact .inr (.inl rfl)
    | stopping pid since => exact .inr (.inr rfl)
  process := by
    have issued {pid : Nat} (hp : s.phase.process? = some pid) : pid ≠ 0 := by
      have := (h.issued found hp).1
      omega
    obtain ⟨spec, recovery, starts, phase⟩ := s
    cases phase with
    | stopped => exact ⟨fun _ => rfl, fun _ => rfl⟩
    | running pid => exact ⟨fun hz => absurd hz (issued rfl), nofun⟩
    | stopping pid since => exact ⟨fun hz => absurd hz (issued rfl), nofun⟩
  request := by
    obtain ⟨spec, recovery, starts, phase⟩ := s
    cases phase with
    | stopped => exact ⟨nofun, nofun⟩
    | running pid => exact ⟨nofun, nofun⟩
    | stopping pid since => exact ⟨fun _ => rfl, fun _ => rfl⟩

theorem endsOne_of_sound (h : m.ledger.Sound) (pid : Nat) : m.EndsOne pid where
  single ha := by
    cases hf : List.find? (fun entry => entry.2.hasProcess pid) m.services with
    | none =>
      obtain ⟨rfl, rfl⟩ := ha.unique (terminate_unknown hf)
      exact .inl ⟨rfl, rfl⟩
    | some entry =>
      obtain ⟨name, s⟩ := entry
      obtain ⟨rfl, rfl⟩ := ha.unique (terminate_found hf)
      obtain ⟨found, hp⟩ := h.find?_process.1 hf
      exact .inr ⟨name, s, found, processId_of_hasProcess hp, rfl, rfl⟩
  unordered {r m' services} p ha := by
    have h' : Ledger.Sound { m.ledger with services } := h.perm p
    have same : ∀ name, services.find? name = m.services.find? name := NameMap.find?_perm h.distinct p
    cases hf : List.find? (fun entry => entry.2.hasProcess pid) m.services with
    | none =>
      have hf' : List.find? (fun entry => entry.2.hasProcess pid) services = none := by
        refine h'.find?_process_eq_none.2 ?_
        intro name s found
        exact h.find?_process_eq_none.1 hf name s ((same name).symm.trans found)
      obtain ⟨rfl, rfl⟩ := ha.unique (terminate_unknown hf)
      exact ⟨_, terminate_unknown hf', rfl, same⟩
    | some entry =>
      obtain ⟨name, s⟩ := entry
      obtain ⟨found, hp⟩ := h.find?_process.1 hf
      have hf' : List.find? (fun entry => entry.2.hasProcess pid) services = some (name, s) :=
        h'.find?_process.2 ⟨(same name).trans found, hp⟩
      obtain ⟨rfl, rfl⟩ := ha.unique (terminate_found hf)
      refine ⟨_, terminate_found hf', rfl, ?_⟩
      intro other
      show NameMap.find? other (services.put name _) = NameMap.find? other (m.services.put name _)
      rw [NameMap.find?_put, NameMap.find?_put, same]

theorem endsOnce_of_sound (h : m.ledger.Sound) {pid : Nat} (hmem : pid ∈ m.terminated) :
    Answers (terminate pid) m (.error (.processNotFound pid)) m := by
  refine terminate_unknown (h.find?_process_eq_none.2 ?_)
  intro name s found
  rw [Bool.eq_false_iff]
  intro hp
  exact h.gone found (hasProcess_iff.1 hp).2 hmem

end InOrder

/-- **Whatever a machine is asked, its processes are in order.** -/
theorem processes_in_order (now : Nat) (requests : List Request) :
    let t := (Trace.empty now).serveAll requests
    t.machine.InOrder t.turns := by
  intro t
  obtain ⟨sound, started, ended⟩ : t.Sound := Trace.serveAll_sound (Trace.empty_sound now) requests
  constructor
  case distinct => exact sound.distinct
  case fits =>
    intro name s found
    exact fits_of_sound sound found
  case issued =>
    intro name s found hp
    exact sound.issued found (process?_eq_some hp)
  case apart =>
    intro name name' s s' found found' hp heq
    have process := process?_eq_some hp
    have process' : s'.phase.process? = some s.status.processId := by
      rw [heq] at hp ⊢
      exact process?_eq_some hp
    exact sound.apart found process found' process'
  case started => exact started
  case ended => exact ended
  case once => exact sound.once
  case past => exact sound.past
  case gone =>
    rintro pid hmem name s found rfl
    have positive : s.status.processId ≠ 0 := by
      have := (sound.past _ hmem).1
      omega
    exact sound.gone found (process?_eq_some positive) hmem
  case endsOne => exact endsOne_of_sound sound
  case endsOnce =>
    intro pid hmem
    exact endsOnce_of_sound sound hmem

end ServiceControl.Memory
