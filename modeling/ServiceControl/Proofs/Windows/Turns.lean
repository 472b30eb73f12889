import ServiceControl.Proofs.Callbacks
import ServiceControl.Proofs.Windows.Exchanges
import ServiceControl.Proofs.Windows.Slot
/-!
# Many dispatches

Dispatches go one after another, and Windows does in each of them what it likes.  Each runs its own loop or none
(`Turn.Passes`), so that no workload is started twice, and none by the dispatch of another loop (`dispatchAll_passes`).
-/
namespace ServiceControl.Windows

open Cell (Leads Returns Either Ensures Keeps Yields)

variable {γ : Type} {cell : Cell γ Machine}

/-! ## One of many -/

theorem isOk_iff_grants (reply : Reply) : (replied reply).isOk = true ↔ reply.Grants := by
  refine ⟨fun ok => Classical.byContradiction fun refused => ?_, isOk_of_grants⟩
  obtain ⟨code, rfl⟩ := fails_of_refused refused
  exact Bool.false_ne_true ok

instance (reply : Reply) : Decidable reply.Grants := decidable_of_iff _ (isOk_iff_grants reply)

instance (name : String) : Decidable (Speakable name) := inferInstanceAs (Decidable (_ = true))

/-- A dispatch, and what Windows does in it. -/
structure Turn where
  name : String
  /-- How often the entry point is called, if the dispatcher is. -/
  calls : Nat
  dispatching : Reply
  registering : Reply
  controls : List Nat

namespace Turn

/-- Windows as it is for this dispatch. -/
def prepare (t : Turn) (m : Machine) : Machine :=
  { m with
    mainCalls := some t.calls
    controls := t.controls
    replies := fun
      | .startDispatcher => [t.dispatching]
      | .registerHandler => [t.registering]
      | f => m.replies f }

/-- What is seen of Windows then. -/
def board (t : Turn) (v : Board) : Board :=
  { v with
    mainCalls := some t.calls
    controls := t.controls
    registering := [t.registering]
    dispatching := [t.dispatching] }

theorem board_prepare (t : Turn) (m : Machine) : (t.prepare m).board = t.board m.board := rfl

/-- How often the entry point is called. -/
def entries (t : Turn) : Nat := (t.prepare {}).entries t.name

/-- The signals that a loop gets. -/
def signals (t : Turn) : List ControlSignal := (t.prepare {}).sent.filterMap signalOf?

/-- The entry point is called for the loop, and its handler is taken. -/
def Drives (t : Turn) (l : ControlLoop γ) : Prop := t.entries ≠ 0 ∧ Speakable l.name ∧ t.registering.Grants

instance (t : Turn) (l : ControlLoop γ) : Decidable (t.Drives l) := inferInstanceAs (Decidable (_ ∧ _ ∧ _))

/-- The numbers of the dispatches of which this holds, where the first has the number `k`. -/
def numbers (p : Nat → Turn → Prop) [∀ k t, Decidable (p k t)] : Nat → List Turn → List Nat
  | _, [] => []
  | k, t :: ts => (if p k t then [k] else []) ++ numbers p (k + 1) ts

/-- The dispatches in which the entry point is called. -/
def called (k : Nat) (turns : List Turn) : List Nat := numbers (fun _ t => t.entries ≠ 0) k turns

/-- The dispatches in which a loop is run. -/
def driven (loops : Nat → ControlLoop γ) (k : Nat) (turns : List Turn) : List Nat :=
  numbers (fun k t => t.Drives (loops k)) k turns

section Numbers

variable {p : Nat → Turn → Prop} [∀ k t, Decidable (p k t)]

theorem mem_numbers {k i : Nat} {turns : List Turn} (h : i ∈ numbers p k turns) : k ≤ i := by
  induction turns generalizing k with
  | nil => cases h
  | cons t ts ih =>
    rcases List.mem_append.1 h with h | h
    · split at h
      · exact Nat.le_of_eq (List.mem_singleton.1 h).symm
      · cases h
    · exact Nat.le_of_succ_le (ih h)

/-- **No number comes twice.** -/
theorem numbers_ascend (k : Nat) (turns : List Turn) : (numbers p k turns).Pairwise (· < ·) := by
  induction turns generalizing k with
  | nil => exact .nil
  | cons t ts ih =>
    refine List.pairwise_append.2 ⟨?_, ih (k + 1), fun i hi j hj => ?_⟩
    · split
      · exact List.pairwise_singleton _ _
      · exact .nil
    · split at hi
      · rw [List.mem_singleton.1 hi]
        exact mem_numbers hj
      · cases hi

/-- How often a number comes. -/
theorem numbers_once (k i : Nat) (t : Turn) (ts : List Turn) :
    (if i ∈ numbers p k (t :: ts) then 1 else 0) =
      (if k = i ∧ p k t then 1 else 0) + if i ∈ numbers p (k + 1) ts then 1 else 0 := by
  have later : k = i → i ∉ numbers p (k + 1) ts := fun own h =>
    absurd (mem_numbers h) (own ▸ Nat.not_succ_le_self k)
  have hmem : i ∈ numbers p k (t :: ts) ↔ (k = i ∧ p k t) ∨ i ∈ numbers p (k + 1) ts := by
    show i ∈ (if p k t then [k] else []) ++ numbers p (k + 1) ts ↔ _
    rw [List.mem_append]
    refine or_congr ?_ Iff.rfl
    split
    · rename_i holds
      rw [List.mem_singleton]
      exact ⟨fun h => ⟨h.symm, holds⟩, fun h => h.1.symm⟩
    · rename_i fails
      exact ⟨fun h => absurd h List.not_mem_nil, fun h => absurd h.2 fails⟩
  by_cases own : k = i ∧ p k t
  · rw [if_pos (hmem.2 (.inl own)), if_pos own, if_neg (later own.1)]
  · rw [if_neg own, Nat.zero_add]
    exact if_congr (hmem.trans (or_iff_right own)) rfl rfl

end Numbers

variable [Background γ]

/-- Dispatches the next of the loops. -/
def dispatch (cell : Cell γ Machine) (loops : Nat → ControlLoop γ) (t : Turn) : Op γ Unit := do
  Act.update cell t.prepare
  dispatchNext cell t.name loops

end Turn

variable [Background γ]

/-- The workload of the loop behaves like this. -/
structure Staffed {κ : Type} (cell : Cell γ Machine) (l : ControlLoop γ) (work : γ → κ) (conduct : Conduct κ) : Prop where
  apart : Separate cell l.errors work
  enacts : l.workload.Enacts (boardPanel cell l.errors work) l.view conduct

/-- **What a dispatch comes to among others.**  Without a result it waits for good. -/
structure Turn.Passes (cell : Cell γ Machine) (loops : Nat → ControlLoop γ) (t : Turn) (k : Nat) (s : Scene γ)
    (r : Option (Except ServiceError Unit)) (after : Scene γ) : Prop where
  number : (cell.get s.world).dispatches = k
  /-- Its own loop is run by the first call of the entry point. -/
  serves : (r.map fun _ => (), after) = (serveOnce cell k (loops k) t.entries).finish
    { s with world := cell.set ((t.prepare (cell.get s.world)).asked t.name) s.world }
  /-- It makes no difference which other loops there are. -/
  alone : (r, after) = (do Act.update cell t.prepare; Windows.dispatch cell t.name (loops k) : Op γ Unit).run.finish s
  /-- It comes to an end if its loop does. -/
  returns : Terminates (loops k) → r.isSome = true
  /-- What its loop reports is told, and its workload is started once. -/
  goes : ∀ {κ : Type} {work : γ → κ} {conduct : Conduct κ}, Staffed cell (loops k) work conduct → t.Drives (loops k) →
    let course := conduct.course s.now (work s.world) t.signals
    (cell.get after.world).records = (course.reports.filterMap statusRecord?).reverse ++ (cell.get s.world).records ∧
      work after.world = course.work ∧ r.isSome = course.exit.isSome
  /-- Nothing is run if the entry point is not called or the handler is not taken. -/
  spares : ¬t.Drives (loops k) → r.isSome = true ∧ ∃ m, after.world = cell.set m s.world ∧
    m.records = (cell.get s.world).records
  /-- What its loop leaves alone is left alone. -/
  leaves : ∀ {β : Type} {place : Cell γ β}, place.Still → place.Apart cell → Aloof place (loops k) →
    place.get after.world = place.get s.world
  served : (cell.get after.world).served = (if t.entries ≠ 0 then [k] else []) ++ (cell.get s.world).served
  empty : (cell.get after.world).pending = none
  next : (cell.get after.world).dispatches = k + 1
  told : r = none ∨ r = some (.ok ()) ∨ ∃ text, r = some (.error (.dispatch text))
  fails_iff : r.isSome = true →
    ((∃ text, r = some (.error (.dispatch text))) ↔ ¬(Speakable t.name ∧ t.dispatching.Grants))

section Turns

omit [Background γ] in
theorem Board.verdict_cases (v : Board) (name : String) :
    v.verdict name = .ok () ∨ ∃ text, v.verdict name = .error (.dispatch text) := by
  unfold Board.verdict
  cases (terminated (.nul "service name") name).bind fun _ => (replied (nextReply v.dispatching).1).map fun _ => () with
  | ok _ => exact .inl rfl
  | error f => exact .inr ⟨f.message, rfl⟩

omit [Background γ] in
/-- A dispatch fails if the dispatcher cannot be asked or fails. -/
theorem Board.verdict_error_iff (v : Board) (name : String) :
    (∃ text, v.verdict name = .error (.dispatch text)) ↔ ¬(Speakable name ∧ (nextReply v.dispatching).1.Grants) := by
  rw [← verdict_ok_iff]
  constructor
  · rintro ⟨text, hv⟩ ok
    exact nomatch hv.symm.trans ok
  · exact (verdict_cases v name).resolve_left

omit [Background γ] in
theorem slot_asked (name : String) (m : Machine) : (m.asked name).slot = ⟨m.dispatches + 1, none, m.served⟩ := by
  unfold Machine.asked
  cases terminated (.nul "service name") name with
  | ok checked => exact slot_call _ _ _
  | error f => rfl

omit [Background γ] in
theorem records_asked (name : String) (m : Machine) : (m.asked name).records = m.records := by
  unfold Machine.asked
  cases terminated (.nul "service name") name with
  | ok checked => exact congrArg Board.records (board_call _ _ _)
  | error f => rfl

omit [Background γ] in
theorem replies_asked {f : Function} (other : f ≠ .startDispatcher) (name : String) (m : Machine) :
    (m.asked name).replies f = m.replies f := by
  unfold Machine.asked
  cases terminated (.nul "service name") name with
  | ok checked => exact replies_call other _ _
  | error _ => rfl

namespace Turn

omit [Background γ] in
/-- Where the entry point is called at all, the dispatcher could be asked and calls it. -/
theorem entries_pos_iff (t : Turn) : t.entries ≠ 0 ↔ Speakable t.name ∧ 0 < t.calls := by
  unfold entries Machine.entries
  cases hchecked : terminated (.nul "service name") t.name with
  | ok checked =>
    refine ⟨fun called => ⟨speakable_of_terminated hchecked, Nat.pos_of_ne_zero called⟩, fun ⟨_, called⟩ => ?_⟩
    exact Nat.ne_of_gt called
  | error f =>
    refine ⟨fun called => absurd rfl called, fun ⟨named, _⟩ => ?_⟩
    obtain ⟨checked, h⟩ := terminated_of_speakable named (.nul "service name")
    exact nomatch h.symm.trans hchecked

/-- **A dispatch that drives its loop lets it go its course.** -/
theorem dispatch_goes {κ : Type} {l : ControlLoop γ} {work : γ → κ} {conduct : Conduct κ}
    (staffed : Staffed cell l work conduct) {t : Turn} (drives : t.Drives l) (s : Scene γ) :
    let course := conduct.course s.now (work s.world) t.signals
    let run := (do Act.update cell t.prepare; Windows.dispatch cell t.name l : Op γ Unit).run.finish s
    (cell.get run.2.world).records = (course.reports.filterMap statusRecord?).reverse ++ (cell.get s.world).records ∧
      work run.2.world = course.work ∧ run.1.isSome = course.exit.isSome := by
  intro course run
  obtain ⟨called, named, grants⟩ := drives
  obtain ⟨speakable, calls⟩ := t.entries_pos_iff.1 called
  let v := (cell.get s.world).board
  let prepared := t.board v
  let box := l.errors.get s.world
  have hprepare : (boardPanel cell l.errors work).Leads (Act.update cell t.prepare : Task γ Unit)
      ⟨s.now, ⟨v, box, work s.world⟩⟩ (some ()) ⟨s.now, ⟨prepared, box, work s.world⟩⟩ := by
    refine staffed.apart.update_machine fun x hx => ?_
    rw [board_prepare, hx]
  have hdispatch := dispatch_course (v := prepared) staffed.apart staffed.enacts s.now box (work s.world) named grants
    speakable calls
  have hrun : (boardPanel cell l.errors work).Leads
      (do Act.update cell t.prepare; Windows.dispatch cell t.name l : Op γ Unit).run
      ⟨s.now, ⟨v, box, work s.world⟩⟩ _ ⟨s.now, prepared.begun.ran course box⟩ :=
    Leads.bind (m := Task γ) (Returns.lift hprepare) hdispatch
  obtain ⟨hreturned, hseen⟩ := hrun s rfl
  refine ⟨?_, congrArg (·.held.work) hseen, ?_⟩
  · refine (congrArg (·.held.shown.records) hseen).trans ?_
    exact Board.toldAll_records course.reports prepared.begun
  · refine (congrArg Option.isSome hreturned).trans ?_
    rw [Option.isSome_map]
    rfl

end Turn

/-- The scene in which the loop with this number is run. -/
def noted (cell : Cell γ Machine) (number : Nat) (s : Scene γ) : Scene γ :=
  { s with world := cell.set { cell.get s.world with served := number :: (cell.get s.world).served } s.world }

/-- The world is as the run has left it, whatever else is called. -/
theorem serveOnce_succ (cell : Cell γ Machine) (l : ControlLoop γ) (k n : Nat) (s : Scene γ) :
    let served := (serve cell l).finish (noted cell k s)
    let once := (serveOnce cell k l (n + 1)).finish s
    once.1 = served.1 ∧ once.2.world = served.2.world := by
  intro served once
  obtain ⟨r, s', hserve⟩ : ∃ r s', (serve cell l).finish (noted cell k s) = (r, s') := ⟨_, _, rfl⟩
  have hserved : served = (r, s') := hserve
  have honce : once =
      (serve cell l >>= fun _ => (liftM (missed n : Act γ Unit) : Task γ Unit)).finish (noted cell k s) := rfl
  rw [honce, hserved]
  cases r with
  | none =>
    rw [Task.finish_bind_none hserve]
    exact ⟨rfl, rfl⟩
  | some _ =>
    rw [Task.finish_bind_some hserve]
    exact ⟨rfl, missed_world n s'⟩

variable (still : cell.Undisturbed)
include still

/-- **Nothing is run where the entry point is not called or the handler is not taken.** -/
theorem serveOnce_spared {l : ControlLoop γ} (k n : Nat) (s : Scene γ)
    (idle : n = 0 ∨ ¬(Speakable l.name ∧ (nextReply ((cell.get s.world).replies .registerHandler)).1.Grants)) :
    let served := (serveOnce cell k l n).finish s
    served.1 = some () ∧ ∃ m, served.2.world = cell.set m s.world ∧ m.records = (cell.get s.world).records := by
  cases n with
  | zero => exact ⟨rfl, cell.get s.world, (still.set_get _).symm, rfl⟩
  | succ n =>
    have denied := idle.resolve_left (Nat.succ_ne_zero n)
    have hnoted : cell.get (noted cell k s).world =
        { cell.get s.world with served := k :: (cell.get s.world).served } := still.get_set _ _
    obtain ⟨m, lines, quiet, hserve⟩ := serve_denied (s := noted cell k s) (l := l) still.toLawful (by
      rw [hnoted]
      exact denied)
    obtain ⟨returned, hworld⟩ := serveOnce_succ cell l k n s
    rw [hserve] at returned hworld
    refine ⟨returned, m, hworld.trans (still.set_set _ _ _), ?_⟩
    rw [quiet, hnoted]
    rfl

theorem serveOnce_slot {l : ControlLoop γ} (aloof : Aloof (slotPlace cell) l) (k n : Nat) (s : Scene γ) :
    let slot := (cell.get s.world).slot
    (cell.get ((serveOnce cell k l n).finish s).2.world).slot =
      { slot with served := (if n ≠ 0 then [k] else []) ++ slot.served } := by
  cases n with
  | zero => rfl
  | succ n =>
    obtain ⟨-, hworld⟩ := serveOnce_succ cell l k n s
    dsimp only
    rw [hworld, serve_slot still aloof]
    show (cell.get (cell.set _ s.world)).slot = _
    rw [still.get_set]
    rfl

variable {loops : Nat → ControlLoop γ}

theorem Turn.dispatch_passes (aloof : ∀ k, Aloof (slotPlace cell) (loops k)) (t : Turn) (s : Scene γ) :
    t.Passes cell loops (cell.get s.world).dispatches s ((t.dispatch cell loops).run.finish s).1
      ((t.dispatch cell loops).run.finish s).2 := by
  let m := cell.get s.world
  let s₁ : Scene γ := { s with world := cell.set (t.prepare m) s.world }
  let entered : Scene γ := { s with world := cell.set ((t.prepare m).asked t.name) s.world }
  have hentered : cell.get entered.world = (t.prepare m).asked t.name := still.get_set _ _
  let served := (serveOnce cell m.dispatches (loops m.dispatches) t.entries).finish entered
  have hrun (loops' : Nat → ControlLoop γ) (same : loops' m.dispatches = loops m.dispatches) :
      (dispatchNext cell t.name loops').run.finish s₁ =
        (served.1.map fun _ => (t.prepare m).board.verdict t.name, served.2) := by
    have hs₁ : cell.get s₁.world = t.prepare m := still.get_set _ _
    have hentered : { s₁ with world := cell.set ((t.prepare m).asked t.name) s₁.world } = entered :=
      congrArg (Scene.mk s.now s.journal) (still.set_set _ _ _)
    have h := dispatchNext_finish still loops' t.name s₁ (by rw [hs₁]; exact same ▸ aloof m.dispatches)
    dsimp only at h
    rw [hs₁, hentered, show loops' (t.prepare m).dispatches = loops m.dispatches from same] at h
    exact h
  have hdispatch : (t.dispatch cell loops).run.finish s = _ := hrun loops rfl
  rw [hdispatch]
  have hslot : (cell.get served.2.world).slot =
      ⟨m.dispatches + 1, none, (if t.entries ≠ 0 then [m.dispatches] else []) ++ m.served⟩ := by
    rw [serveOnce_slot still (aloof m.dispatches), hentered, slot_asked]
    rfl
  have halone : (served.1.map fun _ => (t.prepare m).board.verdict t.name, served.2) =
      (do Act.update cell t.prepare; Windows.dispatch cell t.name (loops m.dispatches) : Op γ Unit).run.finish s :=
    (hrun (fun _ => loops m.dispatches) rfl).symm
  have keeps {β : Type} (place : Cell γ β) (quiet : place.Still) (apart : place.Apart cell)
      (leaves : Aloof place (loops m.dispatches)) :=
    serveOnce_keeps quiet leaves apart m.dispatches t.entries (place.get s.world) entered (apart _ _)
  exact {
    number := rfl
    serves := by
      show ((served.1.map _).map _, served.2) = served
      rw [Option.map_map]
      exact Prod.ext (by cases served.1 <;> rfl) rfl
    alone := halone
    returns := by
      intro ends
      let nowhere : Cell γ Unit := ⟨fun _ => (), fun _ w => w⟩
      have aside : Aloof nowhere (loops m.dispatches) :=
        ⟨fun _ _ _ => ⟨rfl, False.elim⟩, fun _ _ _ => ⟨rfl, False.elim⟩, fun _ _ => rfl⟩
      obtain ⟨-, hends⟩ := keeps nowhere ⟨fun _ _ => rfl, fun _ _ _ => rfl⟩ (fun _ _ => rfl) aside
      obtain ⟨a, ha⟩ := hends ends
      rw [Option.isSome_map]
      exact Option.isSome_iff_exists.2 ⟨a, ha⟩
    goes := by
      intro κ work conduct staffed drives
      have h := Turn.dispatch_goes staffed drives s
      dsimp only at h
      rwa [← halone] at h
    spares := by
      intro idle
      have undriven : t.entries = 0 ∨ ¬(Speakable (loops m.dispatches).name ∧ t.registering.Grants) :=
        Classical.or_iff_not_imp_left.2 fun called driven => idle ⟨called, driven⟩
      obtain ⟨returned, m', hworld, quiet⟩ := serveOnce_spared (l := loops m.dispatches) still m.dispatches t.entries
        entered (by
          rw [hentered, replies_asked (by decide)]
          exact undriven)
      have hreturned : served.1 = some () := returned
      rw [hreturned]
      refine ⟨rfl, m', hworld.trans (still.set_set _ _ _), ?_⟩
      rw [quiet, hentered, records_asked]
      rfl
    leaves := fun quiet apart leaves => (keeps _ quiet apart leaves).1
    served := congrArg Slot.served hslot
    empty := congrArg Slot.pending hslot
    next := congrArg Slot.dispatches hslot
    told := by
      cases served.1 with
      | none => exact .inl rfl
      | some _ =>
        obtain ok | ⟨text, failed⟩ := Board.verdict_cases (t.prepare m).board t.name
        · exact .inr (.inl (congrArg some ok))
        · exact .inr (.inr ⟨text, congrArg some failed⟩)
    fails_iff := by
      intro returned
      obtain ⟨r, hr⟩ := Option.isSome_iff_exists.1 returned
      obtain ⟨_, hserved, -⟩ := Option.map_eq_some_iff.1 hr
      rw [hserved, Option.map_some]
      simp only [Option.some_inj]
      exact Board.verdict_error_iff _ _ }

end Turns

/-! ## One after another -/

/-- Dispatches one after another. -/
def dispatchAll (cell : Cell γ Machine) (loops : Nat → ControlLoop γ) :
    List Turn → Task γ (List (Except ServiceError Unit))
  | [] => return []
  | t :: ts => do
    let result ← (t.dispatch cell loops).run
    return result :: (← dispatchAll cell loops ts)

/-- How dispatches go one after another, the first of which has this number: which of them are begun, and what they come
to if they all return.  After one that waits for good no other is begun. -/
inductive Passage (cell : Cell γ Machine) (loops : Nat → ControlLoop γ) :
    Nat → Scene γ → List Turn → List Turn → Option (List (Except ServiceError Unit)) → Scene γ → Prop
  | nil (k : Nat) (s : Scene γ) : Passage cell loops k s [] [] (some []) s
  | cons {k : Nat} {s s' s'' : Scene γ} {t : Turn} {ts begun : List Turn} {r : Except ServiceError Unit}
      {rs : Option (List (Except ServiceError Unit))} (first : t.Passes cell loops k s (some r) s')
      (rest : Passage cell loops (k + 1) s' ts begun rs s'') :
      Passage cell loops k s (t :: ts) (t :: begun) (rs.map (r :: ·)) s''
  | waits {k : Nat} {s s' : Scene γ} {t : Turn} {ts : List Turn} (first : t.Passes cell loops k s none s') :
      Passage cell loops k s (t :: ts) [t] none s'

/-- Where no more is looked at than the state of a workload. -/
def workPlace {κ : Type} (work : γ → κ) : Cell γ κ := ⟨work, fun _ w => w⟩

/-- The workload of the loop with this number behaves like this, and the other loops leave its state alone. -/
structure Employs {κ : Type} (cell : Cell γ Machine) (loops : Nat → ControlLoop γ) (i : Nat) (work : γ → κ)
    (conduct : Conduct κ) : Prop extends Staffed cell (loops i) work conduct where
  others : ∀ j, j ≠ i → Aloof (workPlace work) (loops j)

section Passages

variable {loops : Nat → ControlLoop γ}

/-- A course starts its workload once, and stops it at most once. -/
theorem course_counts {κ : Type} {conduct : Conduct κ} {starts stops : κ → Nat} (counts : Counts conduct starts stops)
    (now : Nat) (k : κ) (signals : List ControlSignal) :
    starts (conduct.course now k signals).work = starts k + 1 ∧ stops (conduct.course now k signals).work ≤ stops k + 1 := by
  obtain ⟨hstopped, hfailed⟩ := course_work conduct now k signals
  obtain ⟨started, unstopped⟩ := counts.start now k
  by_cases ok : (conduct.start now k).result = some (.ok ())
  · obtain ⟨same, stopped⟩ := counts.stop (conduct.start now k).instant (conduct.start now k).work
    rw [hstopped ok, same, stopped, started, unstopped]
    exact ⟨rfl, Nat.le_refl _⟩
  · rw [hfailed ok, started, unstopped]
    exact ⟨rfl, Nat.le_succ _⟩

section Counted

variable {κ : Type} {work : γ → κ} {conduct : Conduct κ} {starts stops : κ → Nat} {i : Nat}
  (employs : Employs cell loops i work conduct) (counts : Counts conduct starts stops)
include employs counts

/-- A dispatch calls the workload of its own loop, if it runs it, and no other. -/
theorem Turn.Passes.counted {t : Turn} {k : Nat} {s after : Scene γ} {r : Option (Except ServiceError Unit)}
    (h : t.Passes cell loops k s r after) :
    let once := if k = i ∧ t.Drives (loops k) then 1 else 0
    starts (work after.world) = starts (work s.world) + once ∧
      stops (work after.world) ≤ stops (work s.world) + once := by
  intro once
  have apart := employs.apart
  by_cases own : k = i
  · subst own
    by_cases drives : t.Drives (loops k)
    · obtain ⟨-, hwork, -⟩ := h.goes employs.toStaffed drives
      rw [hwork, show once = 1 from if_pos ⟨rfl, drives⟩]
      exact course_counts counts _ _ _
    · obtain ⟨-, m, hworld, -⟩ := h.spares drives
      rw [hworld, apart.work_machine, show once = 0 from if_neg fun both => drives both.2]
      exact ⟨rfl, Nat.le_refl _⟩
  · have quiet : (workPlace work).Still := ⟨apart.work_settle, apart.work_pass⟩
    have same : work after.world = work s.world := h.leaves quiet apart.work_machine (employs.others k own)
    rw [same, show once = 0 from if_neg fun both => own both.1]
    exact ⟨rfl, Nat.le_refl _⟩

/-- **A workload is started once if the dispatch of its loop runs it, and not at all otherwise.** -/
theorem Passage.counted {k : Nat} {s after : Scene γ} {turns begun : List Turn}
    {results : Option (List (Except ServiceError Unit))} (h : Passage cell loops k s turns begun results after) :
    let once := if i ∈ Turn.driven loops k begun then 1 else 0
    starts (work after.world) = starts (work s.world) + once ∧
      stops (work after.world) ≤ stops (work s.world) + once := by
  induction h with
  | nil k s => exact ⟨rfl, Nat.le_refl _⟩
  | @cons k s s' s'' t ts begun r rs first rest ih =>
    obtain ⟨started, stopped⟩ := first.counted employs counts
    obtain ⟨started', stopped'⟩ := ih
    unfold Turn.driven
    dsimp only
    rw [Turn.numbers_once, ← Nat.add_assoc, ← Nat.add_assoc]
    exact ⟨started'.trans (congrArg (· + _) started), Nat.le_trans stopped' (Nat.add_le_add_right stopped _)⟩
  | @waits k s s' t ts first =>
    unfold Turn.driven
    dsimp only
    rw [Turn.numbers_once, if_neg (show i ∉ Turn.numbers _ (k + 1) [] from List.not_mem_nil), Nat.add_zero]
    exact first.counted employs counts

end Counted

namespace Passage

variable {k : Nat} {s after : Scene γ} {turns begun : List Turn} {results : Option (List (Except ServiceError Unit))}
  (h : Passage cell loops k s turns begun results after)
include h

theorem begun_prefix : begun <+: turns := by
  induction h with
  | nil => exact List.nil_prefix
  | cons first rest ih => exact List.cons_prefix_cons.2 ⟨rfl, ih⟩
  | waits first => exact List.cons_prefix_cons.2 ⟨rfl, List.nil_prefix⟩

theorem begun_all (returned : results.isSome = true) : begun = turns := by
  induction h with
  | nil => rfl
  | cons first rest ih =>
    rw [Option.isSome_map] at returned
    rw [ih returned]
  | waits first => exact absurd returned Bool.false_ne_true

/-- Dispatches of loops that end all return. -/
theorem returns (ends : ∀ i, Terminates (loops i)) : results.isSome = true := by
  induction h with
  | nil => rfl
  | cons first rest ih => rw [Option.isSome_map, ih]
  | waits first => exact first.returns (ends _)

theorem served : (cell.get after.world).served = (Turn.called k begun).reverse ++ (cell.get s.world).served := by
  induction h with
  | nil => rfl
  | @cons k s s' s'' t ts begun r rs first rest ih =>
    show _ = ((if t.entries ≠ 0 then [k] else []) ++ Turn.called (k + 1) begun).reverse ++ _
    rw [ih, first.served, List.reverse_append, List.append_assoc]
    split <;> rfl
  | @waits k s s' t ts first =>
    show _ = ((if t.entries ≠ 0 then [k] else []) ++ []).reverse ++ _
    rw [first.served, List.append_nil]
    split <;> rfl

end Passage

variable (still : cell.Undisturbed)
include still

theorem dispatchAll_passage (aloof : ∀ k, Aloof (slotPlace cell) (loops k)) (turns : List Turn) (s : Scene γ) :
    let run := (dispatchAll cell loops turns).finish s
    ∃ begun, Passage cell loops (cell.get s.world).dispatches s turns begun run.1 run.2 := by
  induction turns generalizing s with
  | nil => exact ⟨[], .nil _ s⟩
  | cons t ts ih =>
    intro run
    have first := Turn.dispatch_passes still aloof t s
    obtain ⟨r, s', hfirst⟩ : ∃ r s', (t.dispatch cell loops).run.finish s = (r, s') := ⟨_, _, rfl⟩
    rw [hfirst] at first
    cases r with
    | none =>
      have hrun : run = (none, s') := Task.finish_bind_none hfirst
      rw [hrun]
      exact ⟨[t], .waits first⟩
    | some r =>
      obtain ⟨rs, s'', hrest⟩ : ∃ rs s'', (dispatchAll cell loops ts).finish s' = (rs, s'') := ⟨_, _, rfl⟩
      obtain ⟨begun, rest⟩ := ih s'
      rw [hrest, first.next] at rest
      have hrun : run = (rs.map (r :: ·), s'') := by
        refine (Task.finish_bind_some hfirst).trans ?_
        cases rs with
        | none => exact Task.finish_bind_none hrest
        | some rs => exact Task.finish_bind_some hrest
      rw [hrun]
      exact ⟨t :: begun, .cons first rest⟩

/-- **Dispatches one after another run their own loops and no others.**  The loop of a dispatch is run at most once, by
the first call of the entry point in it, and after it nothing is in the slot, whatever Windows does.  A workload is started
once if the dispatch of its loop runs it, and not at all otherwise. -/
theorem dispatchAll_passes (aloof : ∀ k, Aloof (slotPlace cell) (loops k)) (turns : List Turn) (s : Scene γ) :
    let k := (cell.get s.world).dispatches
    let run := (dispatchAll cell loops turns).finish s
    ∃ begun, Passage cell loops k s turns begun run.1 run.2 ∧
      begun <+: turns ∧ (run.1.isSome = true → begun = turns) ∧ ((∀ i, Terminates (loops i)) → run.1.isSome = true) ∧
      (Turn.called k begun).Pairwise (· < ·) ∧
      (cell.get run.2.world).served = (Turn.called k begun).reverse ++ (cell.get s.world).served ∧
      ∀ {κ : Type} {work : γ → κ} {conduct : Conduct κ} {starts stops : κ → Nat} {i : Nat},
        Employs cell loops i work conduct → Counts conduct starts stops →
        let once := if i ∈ Turn.driven loops k begun then 1 else 0
        starts (work run.2.world) = starts (work s.world) + once ∧
          stops (work run.2.world) ≤ stops (work s.world) + once := by
  intro k run
  obtain ⟨begun, passage⟩ := dispatchAll_passage still aloof turns s
  exact ⟨begun, passage, passage.begun_prefix, passage.begun_all, passage.returns, Turn.numbers_ascend _ _,
    passage.served, fun employs counts => passage.counted employs counts⟩

end Passages

/-! ## Loops of controllers -/

section Scripted

variable {β : Type} {place : Cell γ β} {P : Sight β → Prop} (sees : SeesSlot place cell)
include sees

omit [Background γ] in
theorem acquire_unseen (f : Function) (c : Call) :
    place.Yields P (acquire cell f c) (Either (fun _ => P) fun _ => P) := by
  have hissue : place.Ensures P (Act.takeFrom cell Machine.issue : Act γ Handle) fun _ => P :=
    takeFrom_unseen sees fun _ => rfl
  refine (request_unseen sees f c).bind (fun reply => ?_) fun _ _ hσ => hσ
  exact (Yields.lift hissue).bind_ok fun handle => .pure fun _ hσ => hσ

theorem status_unseen (config : ServiceConfig) : place.Ensures P ((gateway cell).status config) fun _ => P := by
  have hclose (handle : Handle) : place.Ensures P (closeHandle cell handle) fun _ => P :=
    (takeFrom_unseen sees (slot_call _ _)).bind fun _ => update_unseen sees fun _ => rfl
  refine Gateway.status_quiet ?_ (fun session name => ?_) (fun entry => ?_) hclose hclose
  · exact connect_yields (acquire_unseen sees _ _)
  · exact openService_yields (fun checked => acquire_unseen sees _ _) fun _ _ _ hσ => hσ
  · exact query_yields (takeFrom_unseen sees (slot_call _ _))

/-- **A scripted workload leaves the slot alone**, whether it looks at its service or not, and whatever else lies apart
from its own state. -/
theorem aloof_scripted (still : place.Still) {job : Cell γ Workload.Scripted} {errors : Cell γ ErrorBox}
    (config : ServiceConfig) (job_apart : place.Apart job) (errors_apart : place.Apart errors) :
    Aloof place ⟨Workload.scripted job, (gateway cell).view config, errors⟩ := by
  have callback (stopping : Bool) (b : β) : place.Keeps (fun σ => σ.held = b) False
      (Workload.Scripted.callback job stopping ((gateway cell).view config)).run :=
    Ensures.keeps (Workload.Scripted.callback_keeps still (fun _ _ h => h) job_apart (status_unseen sees config) stopping)
  exact ⟨callback false, callback true, errors_apart⟩

end Scripted

section Crews

open Scenario (Stage)
open Workload (Scripted)

/-- A machine with an error box and a workload for each dispatch. -/
structure Crew where
  machine : Machine := {}
  errors : ErrorBox := {}
  jobs : Nat → Scripted := fun _ => {}

namespace Crew

def machineCell : Cell (Stage Crew) Machine := Stage.managerCell.inside ⟨(·.machine), fun m d => { d with machine := m }⟩

def errorsCell : Cell (Stage Crew) ErrorBox :=
  Stage.managerCell.inside ⟨(·.errors), fun box d => { d with errors := box }⟩

def jobCell (k : Nat) : Cell (Stage Crew) Scripted :=
  Stage.managerCell.inside ⟨(·.jobs k), fun job d => { d with jobs := fun j => if j = k then job else d.jobs j }⟩

def work (k : Nat) (w : Stage Crew) : Scripted := ((jobCell k).get w).blind

/-- The loop of a dispatch. -/
def loop (k : Nat) : ControlLoop (Stage Crew) :=
  ⟨Workload.scripted (jobCell k), (gateway machineCell).view { name := "svc" }, errorsCell⟩

theorem separate (k : Nat) : Separate machineCell errorsCell (work k) where
  machine := Cell.inside_undisturbed Stage.managerCell_undisturbed ⟨fun _ _ => rfl, fun _ _ _ => rfl, fun _ => rfl⟩
  box := Cell.inside_undisturbed Stage.managerCell_undisturbed ⟨fun _ _ => rfl, fun _ _ _ => rfl, fun _ => rfl⟩
  machine_box _ _ := rfl
  box_machine _ _ := rfl
  work_machine _ _ := rfl
  work_box _ _ := rfl
  work_settle _ _ := rfl
  work_pass _ _ _ := rfl

theorem aloof (k : Nat) : Aloof (slotPlace machineCell) (loop k) :=
  aloof_scripted (slotPlace_sees (separate k).machine.toLawful) (slotPlace_still (separate k).machine) _ (fun _ _ => rfl)
    fun _ _ => rfl

theorem terminates (k : Nat) : Terminates (loop k) :=
  ⟨Scripted.callback_ends _ _ false, Scripted.callback_ends _ _ true⟩

theorem employs (i : Nat) : Employs machineCell loop i (work i) Scripted.conduct where
  apart := separate i
  enacts := by
    have sees (s : Scripted) (w : Stage Crew) : work i ((jobCell i).set s w) = s.blind :=
      congrArg Scripted.blind (if_pos rfl)
    refine scripted_enacts (separate i).still (fun s w => ?_) (fun _ => rfl) fun _ => status_quiet (separate i) _
    show Seen.mk _ _ (work i ((jobCell i).set s w)) = _
    rw [sees]
    rfl
  others j other := by
    have still : (workPlace (work i)).Still := ⟨(separate i).work_settle, (separate i).work_pass⟩
    refine aloof_scripted (fun _ _ _ => rfl) still _ (fun s w => ?_) fun _ _ => rfl
    exact congrArg Scripted.blind (if_neg fun same => other same.symm)

end Crew

/-- The first loop is called for twice, the second not at all, and the third by a dispatcher that fails. -/
theorem dispatchAll_passes_thrice :
    let turns : List Turn := [⟨"svc", 2, .succeeds, .succeeds, []⟩, ⟨"svc", 0, .fails 1063, .succeeds, []⟩,
      ⟨"svc", 1, .fails 5, .succeeds, [Code.interrogateControl]⟩]
    let s : Scene (Stage Crew) := { world := { manager := {} } }
    ∃ results after, (dispatchAll Crew.machineCell Crew.loop turns).finish s = (results, after) ∧
      Passage Crew.machineCell Crew.loop 0 s turns turns results after ∧
      (Crew.machineCell.get after.world).served = [2, 0] ∧ (Crew.work 0 after.world).starts = 1 ∧
      (Crew.work 1 after.world).starts = 0 ∧ (Crew.work 2 after.world).starts = 1 := by
  intro turns s
  have called : Turn.called 0 turns = [0, 2] := by decide
  have driven : Turn.driven Crew.loop 0 turns = [0, 2] := by decide
  have before : (Crew.machineCell.get s.world).dispatches = 0 := rfl
  obtain ⟨begun, passage, -, all, ends, -, served, counted⟩ :=
    dispatchAll_passes (Crew.separate 0).machine Crew.aloof turns s
  obtain rfl : turns = begun := (all (ends Crew.terminates)).symm
  have counted (i : Nat) := (counted (Crew.employs i) scripts_count).1
  generalize (dispatchAll Crew.machineCell Crew.loop turns).finish s = run at *
  obtain ⟨results, after⟩ := run
  rw [before, called] at served
  rw [before, driven] at counted
  exact ⟨results, after, rfl, passage, served, counted 0, counted 1, counted 2⟩

end Crews

end ServiceControl.Windows
