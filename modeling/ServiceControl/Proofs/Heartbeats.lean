import ServiceControl.CommandLine.Session
import ServiceControl.Proofs.Beaters
import ServiceControl.Proofs.Promises
import ServiceControl.Scenario.Beats
/-!
# Heartbeats that are started and stopped

A beater begins to beat when the one who started it first waits, the word to stop may come before that, and a beat may be
due at the very instant of the stop.  What a heartbeat should come to is told by steps that know nothing of beaters and
words (`Pulse.Makes`): since when it runs, and how many beats there may be.  `Follows` ties the two, with at most one
beater and no word left between two moves.  Main statement: whatever the moves, and whatever comes first where two things
are to be done at one instant, each move shows what it may, and a run has the beats of its own time
(`heartbeat_restarts`).
-/
namespace ServiceControl.Workload

open Cell (Leads Returns)
open Heartbeat (Prompt)
open Scenario (Stage)

/-! ## Where heartbeats are -/

/-- **A heartbeat has its place here**: what is put there is there, and it goes on as time goes by. -/
structure Hosts {γ : Type} [Background γ] (cell : Cell γ Heartbeat) (seen : γ → Option Heartbeat) : Prop where
  get : ∀ w h, seen w = some h → cell.get w = h
  set : ∀ w h h', seen w = some h → seen (cell.set h' w) = some h'
  settle : ∀ now w h, seen w = some h → seen (Background.settle now w).1 = some (h.settle now).1
  pass : ∀ since later w h, seen w = some h → seen (Background.pass since later w).1 = some (h.passed since later)

theorem session_hosts : Hosts CommandLine.Session.heartbeatCell fun w => some w.heartbeat where
  get _ _ hw := Option.some.inj hw
  set _ _ _ _ := rfl
  settle _ _ _ hw := by rw [← Option.some.inj hw]; rfl
  pass since later w h hw := by
    have hpass := getElem?_passAll [w.heartbeat] since later 0
    rw [← Option.some.inj hw]
    show some ((passAll [w.heartbeat] since later).1.headD w.heartbeat) = _
    rw [List.headD_eq_head?_getD, List.head?_eq_getElem?, hpass]
    rfl

/-- The heartbeat of the controller of a number, if it has one. -/
def heartbeatOn {G : Type} (i : Nat) (w : Stage G) : Option Heartbeat :=
  w.actors[i]?.bind fun a => match a.job with
    | .heartbeat h => some h
    | .scripted _ => none

theorem heartbeatOn_eq_some_iff {G : Type} {i : Nat} {w : Stage G} {h : Heartbeat} :
    heartbeatOn i w = some h ↔ ∃ a, w.actors[i]? = some a ∧ a.job = .heartbeat h := by
  unfold heartbeatOn
  cases w.actors[i]? with
  | none => exact ⟨nofun, nofun⟩
  | some a =>
    obtain ⟨job, errors, trigger⟩ := a
    cases job with
    | heartbeat h' => simp
    | scripted s => simp

theorem heartbeatOn_putHeartbeats {G : Type} {i : Nat} {w : Stage G} {h h' : Heartbeat} (hw : heartbeatOn i w = some h)
    {hs : List Heartbeat} (new : hs[i]? = some h') : heartbeatOn i (w.putHeartbeats hs) = some h' := by
  obtain ⟨a, ha, hjob⟩ := heartbeatOn_eq_some_iff.1 hw
  refine heartbeatOn_eq_some_iff.2 ⟨{ a with job := .heartbeat h' }, ?_, rfl⟩
  show (List.zipWith _ w.actors hs)[i]? = _
  rw [List.getElem?_zipWith, ha, new]
  dsimp only
  rw [hjob]

theorem getElem?_heartbeats {G : Type} {i : Nat} {w : Stage G} {h : Heartbeat} (hw : heartbeatOn i w = some h) :
    w.heartbeats[i]? = some h := by
  obtain ⟨a, ha, hjob⟩ := heartbeatOn_eq_some_iff.1 hw
  unfold Stage.heartbeats
  rw [List.getElem?_map, ha, Option.map_some, hjob]

theorem stage_hosts {G : Type} (i : Nat) : Hosts (Stage.heartbeatCell i : Cell (Stage G) Heartbeat) (heartbeatOn i) where
  get w h hw := by
    obtain ⟨a, ha, hjob⟩ := heartbeatOn_eq_some_iff.1 hw
    show (match (w.actors[i]?.getD default).job with | .heartbeat h => h | .scripted _ => _) = _
    rw [ha, Option.getD_some, hjob]
  set w h h' hw := by
    obtain ⟨a, ha, -⟩ := heartbeatOn_eq_some_iff.1 hw
    refine heartbeatOn_eq_some_iff.2 ⟨{ w.actors[i]?.getD default with job := .heartbeat h' }, ?_, rfl⟩
    exact List.getElem?_set_self (List.getElem?_eq_some_iff.1 ha).1
  settle now w h hw := by
    refine heartbeatOn_putHeartbeats hw ?_
    rw [settleAll, getElem?_eachOf, getElem?_heartbeats hw]
    rfl
  pass since later w h hw := by
    refine heartbeatOn_putHeartbeats hw ?_
    rw [getElem?_passAll, getElem?_heartbeats hw]
    rfl

/-! ## Callbacks -/

section Callbacks

variable {γ : Type} [Background γ] {cell : Cell γ Heartbeat} {seen : γ → Option Heartbeat} {now : Nat} {h : Heartbeat}

/-- Where a heartbeat is seen.  Nothing is written here. -/
def hosting (seen : γ → Option Heartbeat) : Cell γ (Option Heartbeat) := ⟨seen, fun _ w => w⟩

namespace Hosts

variable (hosts : Hosts cell seen)
include hosts

section Acts

variable {m : Type → Type} [Monad m] [MonadStateOf (Scene γ) m] [Playable γ m]

theorem read_returns {ε δ : Type} {f : Heartbeat → ExceptT ε m δ} {r : Except ε δ} {σ : Sight (Option Heartbeat)}
    (hf : (hosting seen).Returns (f h) ⟨now, some h⟩ r σ) :
    (hosting seen).Returns (Act.read cell >>= f) ⟨now, some h⟩ r σ := by
  unfold Act.read
  rw [bind_assoc]
  refine .get fun s hs => ?_
  rw [pure_bind, hosts.get s.world h (congrArg Sight.held hs)]
  exact hf

theorem update_leads (g : Heartbeat → Heartbeat) :
    (hosting seen).Leads (Act.update cell g : m Unit) ⟨now, some h⟩ (some ()) ⟨now, some (g h)⟩ := by
  refine .step fun s hs => ?_
  obtain ⟨rfl, held⟩ := Sight.mk.inj hs
  refine ⟨rfl, ?_⟩
  show Sight.mk s.now (seen (cell.set (g (cell.get s.world)) s.world)) = _
  rw [hosts.get s.world h held, hosts.set s.world h _ held]

end Acts

variable {view : View γ}

/-- **A heartbeat that does not run starts.** -/
theorem start_returns (sound : h.poisoned = false) (idle : h.current = none) :
    (hosting seen).Returns ((heartbeat cell).start view) ⟨now, some h⟩ (.ok ()) ⟨now, some (h.spawn view.name)⟩ := by
  have hbefore : (hosting seen).Returns (Heartbeat.beforeSpawn cell view) ⟨now, some h⟩ (.ok ()) ⟨now, some h⟩ := by
    unfold Heartbeat.beforeSpawn
    refine hosts.read_returns ?_
    rw [sound, idle]
    exact .log _ _
  exact Returns.call (hbefore.bind (Returns.lift (hosts.update_leads _)))

/-- **One that runs does not**, and goes on as it was. -/
theorem start_refused (sound : h.poisoned = false) {id : Nat} (runs : h.current = some id) :
    (hosting seen).Returns ((heartbeat cell).start view) ⟨now, some h⟩ (.error (Heartbeat.alreadyRunning view.name))
      ⟨now, some h⟩ := by
  have hbefore : (hosting seen).Returns (Heartbeat.beforeSpawn cell view) ⟨now, some h⟩
      (.error (Heartbeat.alreadyRunning view.name)) ⟨now, some h⟩ := by
    unfold Heartbeat.beforeSpawn
    refine hosts.read_returns ?_
    rw [sound, runs]
    exact Returns.throw _
  exact Returns.call hbefore.bind_error

theorem requestStop_idle (sound : h.poisoned = false) (idle : h.current = none) :
    (hosting seen).Returns (Heartbeat.requestStop cell view) ⟨now, some h⟩ (.ok none) ⟨now, some h⟩ := by
  unfold Heartbeat.requestStop
  refine (Returns.log _ _).bind (hosts.read_returns ?_)
  rw [sound, idle]
  exact (Returns.log _ _).bind (.pure _)

theorem requestStop_returns (sound : h.poisoned = false) {id : Nat} (runs : h.current = some id) :
    (hosting seen).Returns (Heartbeat.requestStop cell view) ⟨now, some h⟩ (.ok (some id))
      ⟨now, some { h with current := none, shutdown := h.shutdown.notifyOne }⟩ := by
  unfold Heartbeat.requestStop
  refine (Returns.log _ _).bind (hosts.read_returns ?_)
  rw [sound, runs]
  exact Returns.bind (Returns.lift (hosts.update_leads fun _ => _)) (.pure _)

/-- A stop goes on once the beater has ended. -/
theorem stop_returns (sound : h.poisoned = false) {id : Nat} (runs : h.current = some id) {ended : Heartbeat}
    (hends : (hosting seen).Leads (Task.await (Heartbeat.isOver cell id))
      ⟨now, some { h with current := none, shutdown := h.shutdown.notifyOne }⟩ (some ()) ⟨now, some ended⟩) :
    (hosting seen).Returns ((heartbeat cell).stop view) ⟨now, some h⟩ (.ok ()) ⟨now, some ended⟩ := by
  have hrequest : (hosting seen).Returns (Heartbeat.requestStop cell view) ⟨now, some h⟩ _ _ :=
    hosts.requestStop_returns sound runs
  show (hosting seen).Returns (Heartbeat.stop cell view) _ _ _
  unfold Heartbeat.stop
  refine (Returns.call hrequest).bind ((Returns.lift hends).bind (hosts.read_returns ?_))
  split
  · exact (Returns.log _ _).bind (.log _ _)
  · exact .log _ _

/-- **A heartbeat that does not run is stopped** without further ado. -/
theorem stop_idle (sound : h.poisoned = false) (idle : h.current = none) :
    (hosting seen).Returns ((heartbeat cell).stop view) ⟨now, some h⟩ (.ok ()) ⟨now, some h⟩ := by
  have hrequest : (hosting seen).Returns (Heartbeat.requestStop cell view) ⟨now, some h⟩ _ _ :=
    hosts.requestStop_idle sound idle
  show (hosting seen).Returns (Heartbeat.stop cell view) _ _ _
  unfold Heartbeat.stop
  exact (Returns.call hrequest).bind (.pure _)

/-! Time -/

/-- One that ends at its next turn has it while it is waited for. -/
theorem await_settles {id : Nat} (alive : h.isAlive id = true) (ends : (h.settle now).1.isAlive id = false) :
    (hosting seen).Leads (Task.await (Heartbeat.isOver cell id)) ⟨now, some h⟩ (some ()) ⟨now, some (h.settle now).1⟩ := by
  intro s hs
  obtain ⟨rfl, held⟩ := Sight.mk.inj hs
  have settled : seen s.settle.world = some (h.settle s.now).1 := hosts.settle s.now s.world h held
  have unmet : (Heartbeat.isOver cell id).isOver s = false := by
    show (!(cell.get s.world).isAlive id || false) = false
    rw [hosts.get s.world h held, alive]
    rfl
  have met : (Heartbeat.isOver cell id).isOver s.settle = true := by
    show (!(cell.get s.settle.world).isAlive id || false) = true
    rw [hosts.get _ _ settled, ends]
    rfl
  have done : Playable.play (Task.await (Heartbeat.isOver cell id)) s = (some (), s.settle) := by
    show (Step.afterWait _ _ s).finish = _
    rw [Step.afterWait, unmet, if_neg Bool.false_ne_true, Step.finish, unmet, if_neg Bool.false_ne_true, if_pos met]
    rfl
  rw [done]
  exact ⟨rfl, congrArg (Sight.mk s.now) settled⟩

/-- **While one sleeps, beaters begin and beat.** -/
theorem sleep_leads (ms : Nat) :
    (hosting seen).Leads (Task.sleep ms : Task γ Unit) ⟨now, some h⟩ (some ())
      ⟨now + ms, some (if ms = 0 then h else (h.settle now).1.passed now (now + ms))⟩ := by
  intro s hs
  obtain ⟨rfl, held⟩ := Sight.mk.inj hs
  have hplay : Playable.play (Task.sleep ms : Task γ Unit) s =
      (Step.afterWait (.till (s.now + ms)) (fun s => .done () s) s).finish := rfl
  have hover : ∀ s' : Scene γ, s'.now = s.now → (Wait.till (s.now + ms)).isOver s' = decide (ms = 0) := by
    intro s' same
    have due : s.now + ms ≤ s.now ↔ ms = 0 := by omega
    simp [Wait.isOver, Wait.isDue, Wait.till, same, due]
  by_cases none : ms = 0
  · rw [hplay, Step.afterWait, hover s rfl, decide_eq_true none, if_pos rfl, if_pos none, Step.finish, none]
    exact ⟨rfl, hs⟩
  · rw [hplay, Step.afterWait, hover s rfl, decide_eq_false none, if_neg Bool.false_ne_true, if_neg none, Step.finish,
      hover s rfl, hover s.settle rfl, decide_eq_false none, if_neg Bool.false_ne_true, if_neg Bool.false_ne_true]
    exact ⟨rfl, congrArg (Sight.mk (s.now + ms)) (hosts.pass _ _ _ _ (hosts.settle s.now s.world h held))⟩

end Hosts

end Callbacks

/-! ## What a heartbeat comes to -/

inductive Move
  | start
  | stop
  | wait (ms : Nat)
  deriving DecidableEq, Repr, Inhabited

/-- How long it takes. -/
def Move.lasts : Move → Nat
  | .start | .stop => 0
  | .wait ms => ms

/-- How long they take one after another. -/
def Move.lastsAll : List Move → Nat
  | [] => 0
  | move :: moves => move.lasts + lastsAll moves

/-- What can be told of a heartbeat after a move. -/
structure Look where
  result : Except Failure Unit
  now : Nat
  running : Bool
  beats : Nat
  /-- The words to stop that nobody has taken. -/
  words : Nat
  deriving DecidableEq

/-- A heartbeat as it should be. -/
structure Pulse where
  interval : Nat
  late : List Nat
  now : Nat
  /-- Since when it runs. -/
  since : Option Nat := none
  /-- The beats before it was last started. -/
  earlier : Nat := 0
  beats : Nat := 0

namespace Pulse

/-- So many beats there may be so many milliseconds after a start: one for each whole interval, but where one is due just
now and late it may be missing. -/
def Counts (p : Pulse) (d n : Nat) : Prop :=
  n = d / p.interval ∨ p.now ∈ p.late ∧ p.interval ∣ d ∧ n + 1 = d / p.interval

/-- **What a move comes to.**  A heartbeat starts unless it runs, and goes on as it was if it does; stopping succeeds
either way and takes no time; and beats are made while it runs, as many as there may be since its start. -/
inductive Makes (name : String) (p : Pulse) : Move → Except Failure Unit → Pulse → Prop
  | starts (idle : p.since = none) : Makes name p .start (.ok ()) { p with since := some p.now, earlier := p.beats }
  | refused (runs : p.since.isSome) : Makes name p .start (.error (Heartbeat.alreadyRunning name)) p
  | rests (idle : p.since = none) : Makes name p .stop (.ok ()) p
  | stops {since n : Nat} (runs : p.since = some since) (more : p.beats ≤ p.earlier + n)
      (counts : p.Counts (p.now - since) n) :
      Makes name p .stop (.ok ()) { p with since := none, beats := p.earlier + n }
  | sleeps {ms : Nat} (idle : p.since = none) : Makes name p (.wait ms) (.ok ()) { p with now := p.now + ms }
  | beats {ms since n : Nat} (runs : p.since = some since) (more : p.beats ≤ p.earlier + n)
      (counts : { p with now := p.now + ms }.Counts (p.now + ms - since) n) :
      Makes name p (.wait ms) (.ok ()) { p with now := p.now + ms, beats := p.earlier + n }

/-- What it shows after a move with this result: no word is left. -/
def look (p : Pulse) (result : Except Failure Unit) : Look := ⟨result, p.now, p.since.isSome, p.beats, 0⟩

/-- Moves one after another, and what is shown after each. -/
inductive Course (name : String) : Pulse → List Move → List Look → Pulse → Prop
  | nil {p : Pulse} : Course name p [] [] p
  | cons {p q r : Pulse} {move : Move} {result : Except Failure Unit} {moves : List Move} {looks : List Look}
      (makes : p.Makes name move result q) (rest : Course name q moves looks r) :
      Course name p (move :: moves) (q.look result :: looks) r

variable {name : String} {p q : Pulse} {moves : List Move} {looks : List Look}

/-- **What is counted of so many milliseconds.** -/
theorem Counts.cases {d n : Nat} (counts : p.Counts d n) :
    (¬ p.interval ∣ d → n = d / p.interval) ∧
    (p.interval ∣ d → 0 < d → n = d / p.interval ∨ n = d / p.interval - 1) ∧ (d = 0 → n = 0) := by
  rcases counts with whole | ⟨-, divides, less⟩
  · exact ⟨fun _ => whole, fun _ _ => .inl whole, fun none => by rw [whole, none, Nat.zero_div]⟩
  · refine ⟨fun odd => absurd divides odd, fun _ _ => .inr (Nat.eq_sub_of_add_eq less), fun none => ?_⟩
    rw [none, Nat.zero_div] at less
    cases less

theorem Makes.interval {move : Move} {result : Except Failure Unit} (makes : p.Makes name move result q) :
    q.interval = p.interval := by
  cases makes <;> rfl

theorem Course.interval (course : Course name p moves looks q) : q.interval = p.interval := by
  induction course with
  | nil => rfl
  | cons makes rest ih => exact ih.trans makes.interval

/-- One that runs goes on through whatever is no stop. -/
theorem Course.unstopped (course : Course name p moves looks q) (unstopped : Move.stop ∉ moves) (runs : p.since.isSome) :
    ∃ beats, q = { p with now := p.now + Move.lastsAll moves, beats } := by
  induction course with
  | nil => exact ⟨_, rfl⟩
  | cons makes rest ih =>
    obtain ⟨other, tail⟩ := not_or.1 (mt List.mem_cons.2 unstopped)
    cases makes with
    | starts idle => exact absurd runs (by simp [idle])
    | refused =>
      obtain ⟨beats, rfl⟩ := ih tail runs
      exact ⟨beats, by rw [Move.lastsAll, Move.lasts, Nat.zero_add]⟩
    | rests | stops => exact absurd rfl other
    | sleeps idle => exact absurd runs (by simp [idle])
    | beats =>
      obtain ⟨beats, rfl⟩ := ih tail runs
      exact ⟨beats, by rw [Move.lastsAll, Move.lasts, ← Nat.add_assoc]⟩

theorem Course.split {before after : List Move} (course : Course name p (before ++ after) looks q) :
    ∃ middle first last, Course name p before first middle ∧ Course name middle after last q := by
  induction before generalizing p looks with
  | nil => exact ⟨p, [], looks, .nil, course⟩
  | cons move before ih =>
    cases course with
    | cons makes rest =>
      obtain ⟨middle, first, last, along, on⟩ := ih rest
      exact ⟨middle, _, last, .cons makes along, on⟩

/-- **A run from a start to a stop** lasts as long as the waits within it and has the beats of that time. -/
theorem Course.run {during : List Move} (course : Course name p (.start :: during ++ [.stop]) looks q)
    (idle : p.since = none) (unstopped : Move.stop ∉ during) :
    let d := Move.lastsAll during
    q.now = p.now + d ∧ ∃ n, q.beats = p.beats + n ∧ q.Counts d n := by
  cases course with
  | cons makes rest =>
    cases makes with
    | refused runs => exact absurd runs (by simp [idle])
    | starts =>
      obtain ⟨middle, first, last, along, on⟩ := rest.split
      obtain ⟨beats, rfl⟩ := along.unstopped unstopped rfl
      cases on with
      | cons makes rest =>
        cases rest with
        | nil =>
          cases makes with
          | rests idle => cases idle
          | stops runs more counts =>
            obtain rfl := Option.some.inj runs
            refine ⟨rfl, _, rfl, ?_⟩
            rwa [Nat.add_sub_cancel_left] at counts

/-! The beats of one that runs -/

/-- **So many beats have been made since a start**: the instant of the last one has come, and the next one is due later
on, or now and late. -/
structure Made (p : Pulse) (since n : Nat) : Prop where
  beats : p.beats = p.earlier + n
  reached : since + n * p.interval ≤ p.now
  ahead : p.now ≤ since + (n + 1) * p.interval
  late : p.now = since + (n + 1) * p.interval → p.now ∈ p.late

variable {since n k : Nat}

theorem Made.counts (made : p.Made since n) (positive : 0 < p.interval) : p.Counts (p.now - since) n := by
  have reached : n * p.interval ≤ p.now - since := Nat.le_sub_of_add_le' made.reached
  rcases Nat.lt_or_eq_of_le made.ahead with before | tie
  · exact .inl (Nat.div_eq_of_lt_le reached (Nat.sub_lt_left_of_lt_add (by have := made.reached; omega) before)).symm
  · have whole : p.now - since = (n + 1) * p.interval := by omega
    exact .inr ⟨made.late tie, ⟨n + 1, by rw [whole, Nat.mul_comm]⟩, by rw [whole, Nat.mul_div_cancel _ positive]⟩

/-- A beat that is due now and late may still be made. -/
theorem Made.still (made : p.Made since n) (positive : 0 < p.interval) (reached : since + (n + k) * p.interval ≤ p.now) :
    Made { p with beats := p.beats + k } since (n + k) where
  beats := by rw [made.beats, Nat.add_assoc]
  reached := reached
  ahead := Nat.le_trans made.ahead (Nat.add_le_add_left (Nat.mul_le_mul_right _ (by omega)) _)
  late tie := by
    cases k with
    | zero => exact made.late tie
    | succ k =>
      have : since + (n + 1) * p.interval < since + (n + (k + 1) + 1) * p.interval :=
        Nat.add_lt_add_left (Nat.mul_lt_mul_of_pos_right (by omega) positive) _
      exact absurd (tie ▸ made.ahead) (Nat.not_le.2 this)

/-- The instant of the last of several beats has come. -/
theorem reached_last {interval now : Nat} (past : since + n * interval ≤ now)
    (before : ∀ j < k, since + (n + 1) * interval + j * interval ≤ now) : since + (n + k) * interval ≤ now := by
  cases k with
  | zero => exact past
  | succ k =>
    have last := before k (Nat.lt_succ_self k)
    rwa [Nat.add_assoc, ← Nat.add_mul, Nat.add_right_comm, Nat.add_assoc n] at last

end Pulse

/-- Tells what there is after a move. -/
def lookAt {γ : Type} (cell : Cell γ Heartbeat) (result : Except Failure Unit) : Act γ Look := do
  let now ← Act.now
  let h ← Act.read cell
  return ⟨result, now, h.isRunning, h.beats, h.shutdown.words⟩

def Move.perform {γ : Type} (cell : Cell γ Heartbeat) (view : View γ) : Move → Task γ (Except Failure Unit)
  | .start => ((heartbeat cell).start view).run
  | .stop => ((heartbeat cell).stop view).run
  | .wait ms => do
    Task.sleep ms
    return .ok ()

/-- Makes moves one after another and tells what there is after each. -/
def playAll {γ : Type} (cell : Cell γ Heartbeat) (view : View γ) : List Move → Task γ (List Look)
  | [] => return []
  | move :: moves => do
    let look ← lookAt cell (← move.perform cell view)
    return look :: (← playAll cell view moves)

/-- Moves from a scene on. -/
def playFrom {γ : Type} [Background γ] (s : Scene γ) (cell : Cell γ Heartbeat) (view : View γ) (moves : List Move) :
    Option (List Look) × Scene γ :=
  (playAll cell view moves).finish s

theorem playAll_append {γ : Type} (cell : Cell γ Heartbeat) (view : View γ) (before after : List Move) :
    playAll cell view (before ++ after) =
      playAll cell view before >>= fun first => playAll cell view after >>= fun last => pure (first ++ last) := by
  induction before with
  | nil => simp [playAll]
  | cons move before ih => simp [playAll, ih]

/-- Further moves go on from where the first ones end. -/
theorem playFrom_append {γ : Type} [Background γ] {s s' : Scene γ} {cell : Cell γ Heartbeat} {view : View γ}
    {before : List Move} {looks : List Look} (ends : playFrom s cell view before = (some looks, s')) (after : List Move) :
    (playFrom s cell view (before ++ after)).2 = (playFrom s' cell view after).2 := by
  have rest : playFrom s cell view (before ++ after) =
      (playAll cell view after >>= fun last => pure (looks ++ last) : Task γ _).finish s' := by
    unfold playFrom at ends ⊢
    rw [playAll_append]
    refine (Step.finish_bind _ _).trans ?_
    rw [show (playAll cell view before s).finish = _ from ends]
    rfl
  rw [rest]
  refine (congrArg Prod.snd (Step.finish_bind _ _)).trans ?_
  rw [show playFrom s' cell view after = (playAll cell view after s').finish from rfl]
  rcases (playAll cell view after s').finish with ⟨_ | last, s''⟩ <;> rfl

/-! ## Moves -/

/-- Whether a heartbeat runs: it has one beater then, which is about to begin or has begun, and no word has come. -/
inductive Heartbeat.Phase (h : Heartbeat) (p : Pulse) : Option Nat → Prop
  | idle (stopped : h.current = none) (nobody : h.beaters = []) (silent : h.shutdown = {}) : Phase h p none
  | runs {since n : Nat} {b : Beater} (current : h.current = some b.id) (one : h.beaters = [b])
      (silent : h.shutdown = waitingFor b) (next : h.firstDue p.now b = since + (n + 1) * p.interval)
      (made : p.Made since n) : Phase h p (some since)

/-- **The heartbeat is as it should be.** -/
structure Follows (h : Heartbeat) (p : Pulse) : Prop where
  interval : h.interval = p.interval
  late : h.late = p.late
  sound : h.poisoned = false
  beats : h.beats = p.beats
  phase : h.Phase p p.since

namespace Follows

variable {h : Heartbeat} {p : Pulse} {name : String}

theorem fresh {interval now : Nat} {late : List Nat} {arms : List Arm} :
    Follows { interval, late, arms } { interval, late, now } where
  interval := rfl
  late := rfl
  sound := rfl
  beats := rfl
  phase := .idle rfl rfl rfl

theorem isRunning (f : Follows h p) : h.isRunning = p.since.isSome := by
  have phase := f.phase
  generalize p.since = since at phase ⊢
  cases phase with
  | idle stopped => simp [Heartbeat.isRunning, stopped]
  | runs current one => simp [Heartbeat.isRunning, Heartbeat.isAlive, f.sound, current, one]

/-- No word is left between two moves. -/
theorem words (f : Follows h p) : h.shutdown.words = 0 := by
  have phase := f.phase
  generalize p.since = since at phase
  cases phase with
  | idle stopped nobody silent => rw [silent]; rfl
  | runs current one silent => rw [silent]; rfl

/-! One that does not run -/

section Idle

variable (f : Follows h p) (idle : p.since = none)
include f idle

theorem of_idle : h.current = none ∧ h.beaters = [] ∧ h.shutdown = {} := by
  have phase := idle ▸ f.phase
  cases phase with
  | idle stopped nobody silent => exact ⟨stopped, nobody, silent⟩

theorem started (positive : 0 < p.interval) :
    Follows (h.spawn name) { p with since := some p.now, earlier := p.beats } := by
  obtain ⟨-, nobody, silent⟩ := f.of_idle idle
  refine ⟨f.interval, f.late, f.sound, f.beats, .runs (n := 0) (b := ⟨h.spawned, name, none⟩) rfl ?_ silent ?_ ?_⟩
  · exact congrArg (· ++ _) nobody
  · show p.now + h.interval = _
    rw [f.interval, Nat.zero_add, Nat.one_mul]
  · have later : p.now < p.now + (0 + 1) * p.interval := by omega
    exact ⟨rfl, by simp, Nat.le_of_lt later, fun tie => absurd tie (Nat.ne_of_lt later)⟩

/-- **While it does not run it makes no beat.** -/
theorem rested (later : Nat) : Follows ((h.settle p.now).1.passed p.now later) { p with now := later } := by
  obtain ⟨stopped, nobody, silent⟩ := f.of_idle idle
  rw [Heartbeat.settle_nil nobody, Heartbeat.passed_nil nobody]
  exact ⟨f.interval, f.late, f.sound, f.beats, idle ▸ .idle stopped nobody silent⟩

end Idle

/-! One that runs -/

section Running

variable (f : Follows h p) {since : Nat} (runs : p.since = some since)
include f runs

theorem of_running : ∃ n b, h.current = some b.id ∧ h.beaters = [b] ∧ h.shutdown = Heartbeat.waitingFor b ∧
    h.firstDue p.now b = since + (n + 1) * p.interval ∧ p.Made since n := by
  have phase := runs ▸ f.phase
  cases phase with
  | runs current one silent next made => exact ⟨_, _, current, one, silent, next, made⟩

/-- **While it runs it makes as many beats as there may be.** -/
theorem passed (positive : 0 < p.interval) {later : Nat} (on : p.now ≤ later) : ∃ n,
    p.beats ≤ p.earlier + n ∧ { p with now := later }.Counts (later - since) n ∧
    Follows ((h.settle p.now).1.passed p.now later) { p with now := later, beats := p.earlier + n } := by
  obtain ⟨n, b, current, one, silent, next, made⟩ := f.of_running runs
  obtain ⟨interval, late, now, _, earlier, beats⟩ := p
  obtain rfl := f.interval
  obtain rfl := f.late
  obtain rfl : _ = some since := runs
  obtain ⟨k, arms, passed, ahead, late, due⟩ := Heartbeat.settle_passed one silent positive now later
  dsimp only at next
  rw [Nat.max_eq_right on] at due
  rw [next] at passed due
  rw [next, Nat.add_assoc, ← Nat.add_mul, Nat.add_right_comm] at ahead late
  have made' : Pulse.Made ⟨h.interval, h.late, later, some since, earlier, earlier + (n + k)⟩ since (n + k) :=
    ⟨rfl, Pulse.reached_last (Nat.le_trans made.reached on) due, ahead, fun tie => late tie.symm⟩
  have more : h.beats + k = earlier + (n + k) := by rw [f.beats, made.beats, Nat.add_assoc]
  refine ⟨n + k, ?_, made'.counts positive, ?_⟩
  · rw [made.beats]
    exact Nat.add_le_add_left (Nat.le_add_right n k) earlier
  · rw [passed]
    have next' : since + (n + 1) * h.interval + k * h.interval = since + (n + k + 1) * h.interval := by
      rw [Nat.add_assoc, ← Nat.add_mul, Nat.add_right_comm]
    exact ⟨rfl, rfl, f.sound, more, .runs (b := { b with due := some _ }) current rfl rfl next' made'⟩

/-- **When the word comes it ends**, after a beat that was due now and late if that comes first; no word is left. -/
theorem told (positive : 0 < p.interval) : ∃ n,
    p.beats ≤ p.earlier + n ∧ p.Counts (p.now - since) n ∧
    Follows ({ h with current := none, shutdown := h.shutdown.notifyOne }.settle p.now).1
      { p with since := none, beats := p.earlier + n } := by
  obtain ⟨n, b, current, one, silent, next, made⟩ := f.of_running runs
  obtain ⟨interval, late, now, _, earlier, beats⟩ := p
  obtain rfl := f.interval
  obtain rfl := f.late
  obtain ⟨k, arms, ends, due⟩ := Heartbeat.settle_told (h := { h with current := none }) one silent positive now
  have first : Heartbeat.firstDue { h with current := none } now b = since + (n + 1) * h.interval := next
  rw [first] at due
  have still := made.still positive (Pulse.reached_last made.reached due)
  have more : h.beats + k = earlier + (n + k) := by rw [f.beats, made.beats, Nat.add_assoc]
  refine ⟨n + k, ?_, still.counts positive, ?_⟩
  · rw [made.beats]
    exact Nat.add_le_add_left (Nat.le_add_right n k) earlier
  · rw [ends]
    exact ⟨rfl, rfl, f.sound, more, .idle rfl rfl rfl⟩

end Running

end Follows

section Moves

variable {γ : Type} [Background γ] {cell : Cell γ Heartbeat} {seen : γ → Option Heartbeat} {view : View γ} {h : Heartbeat}
  {p : Pulse}

/-- A program after which the heartbeat is as it should be. -/
def Keeps {α : Type} (seen : γ → Option Heartbeat) (t : Task γ α) (h : Heartbeat) (p : Pulse) (a : α) (q : Pulse) :
    Prop :=
  ∃ h', (hosting seen).Leads t ⟨p.now, some h⟩ (some a) ⟨q.now, some h'⟩ ∧ Follows h' q

namespace Follows

variable (hosts : Hosts cell seen) (f : Follows h p) (positive : 0 < p.interval)
include hosts f positive

theorem start_keeps : ∃ result q,
    p.Makes view.name .start result q ∧ Keeps seen (Move.start.perform cell view) h p result q := by
  cases hp : p.since with
  | none =>
    refine ⟨_, _, .starts hp, h.spawn view.name, ?_, f.started hp positive⟩
    exact hosts.start_returns f.sound (f.of_idle hp).1
  | some since =>
    obtain ⟨n, b, current, -⟩ := f.of_running hp
    exact ⟨_, _, .refused (hp ▸ rfl), h, hosts.start_refused f.sound current, f⟩

theorem stop_keeps : ∃ result q,
    p.Makes view.name .stop result q ∧ Keeps seen (Move.stop.perform cell view) h p result q := by
  cases hp : p.since with
  | none => exact ⟨_, _, .rests hp, h, hosts.stop_idle f.sound (f.of_idle hp).1, f⟩
  | some since =>
    obtain ⟨m, b, current, one, -⟩ := f.of_running hp
    obtain ⟨n, more, counts, ended⟩ := f.told hp positive
    refine ⟨_, _, .stops hp more counts, _, hosts.stop_returns f.sound current (hosts.await_settles ?_ ?_), ended⟩
    · simp [Heartbeat.isAlive, one]
    · simp [Heartbeat.isAlive, (ended.of_idle rfl).2.1]

theorem wait_keeps (ms : Nat) : ∃ result q,
    p.Makes view.name (.wait ms) result q ∧ Keeps seen (Move.perform cell view (.wait ms)) h p result q := by
  have slept : ∀ q : Pulse, q.now = p.now + ms →
      Follows (if ms = 0 then h else (h.settle p.now).1.passed p.now (p.now + ms)) q →
      Keeps seen (Move.perform cell view (.wait ms)) h p (.ok ()) q := by
    intro q now ends
    refine ⟨_, ?_, ends⟩
    rw [now]
    exact (hosts.sleep_leads ms).bind (.pure _)
  cases hp : p.since with
  | none =>
    refine ⟨_, _, .sleeps hp, slept _ rfl ?_⟩
    split
    case isTrue none =>
      subst none
      exact f
    case isFalse => exact f.rested hp _
  | some since =>
    by_cases none : ms = 0
    · subst none
      obtain ⟨n, b, -, -, -, -, made⟩ := f.of_running hp
      have same : { p with now := p.now + 0, beats := p.earlier + n } = p := by rw [← made.beats]; rfl
      exact ⟨_, _, .beats hp (Nat.le_of_eq made.beats) (made.counts positive), slept _ rfl (same.symm ▸ f)⟩
    · obtain ⟨n, more, counts, goes⟩ := f.passed hp positive (Nat.le_add_right p.now ms)
      exact ⟨_, _, .beats hp more counts, slept _ rfl (by rwa [if_neg none])⟩

/-- **Each move keeps it as it should be.** -/
theorem perform_keeps (move : Move) : ∃ result q,
    p.Makes view.name move result q ∧ Keeps seen (move.perform cell view) h p result q :=
  match move with
  | .start => f.start_keeps hosts positive
  | .stop => f.stop_keeps hosts positive
  | .wait ms => f.wait_keeps hosts positive ms

omit positive in
theorem lookAt_leads (result : Except Failure Unit) :
    (hosting seen).Leads (lookAt cell result) ⟨p.now, some h⟩ (some (p.look result)) ⟨p.now, some h⟩ := by
  intro s hs
  obtain ⟨now, held⟩ := Sight.mk.inj hs
  refine ⟨?_, hs⟩
  show some (Look.mk result s.now (cell.get s.world).isRunning (cell.get s.world).beats
    (cell.get s.world).shutdown.words) = _
  rw [hosts.get s.world h held, now, f.isRunning, f.beats, f.words]
  rfl

end Follows

/-- **So do many, one after another**, and each shows what it may. -/
theorem Follows.playAll_keeps (hosts : Hosts cell seen) (view : View γ) (f : Follows h p) (positive : 0 < p.interval)
    (moves : List Move) : ∃ looks q,
    Pulse.Course view.name p moves looks q ∧ Keeps seen (playAll cell view moves) h p looks q := by
  induction moves generalizing h p with
  | nil => exact ⟨_, _, .nil, h, .pure _, f⟩
  | cons move moves ih =>
    obtain ⟨result, q, makes, h₁, hmove, f₁⟩ := f.perform_keeps hosts positive move
    obtain ⟨looks, r, along, h₂, hmoves, f₂⟩ := ih f₁ (makes.interval ▸ positive)
    refine ⟨_, _, .cons makes along, h₂, hmove.bind ?_, f₂⟩
    exact .bind (.act (f₁.lookAt_leads hosts _)) (hmoves.bind (.pure _))

end Moves

/-! ## The whole course -/

section Courses

variable {γ : Type} [Background γ] {cell : Cell γ Heartbeat} {seen : γ → Option Heartbeat}

/-- Moves from a scene in which the heartbeat is as it should be. -/
theorem playFrom_ends (hosts : Hosts cell seen) (view : View γ) {s : Scene γ} {h : Heartbeat} {p : Pulse}
    (held : seen s.world = some h) (f : Follows h p) (now : p.now = s.now) (positive : 0 < p.interval)
    (moves : List Move) : ∃ looks q s' h',
    playFrom s cell view moves = (some looks, s') ∧ Pulse.Course view.name p moves looks q ∧ seen s'.world = some h' ∧
      Follows h' q ∧ q.now = s'.now := by
  obtain ⟨looks, q, along, h', leads, f'⟩ := f.playAll_keeps hosts view positive moves
  obtain ⟨shows, sight⟩ := leads s (now ▸ congrArg (Sight.mk s.now) held)
  obtain ⟨now', held'⟩ := Sight.mk.inj sight
  exact ⟨looks, q, _, h', Prod.ext shows rfl, along, held', f', now'.symm⟩

/-- **A heartbeat that is started and stopped beats as it should**, however often and at whatever instants, and whatever
comes first where two things are to be done at one: starting fails just while it runs and changes nothing then, stopping
takes no time, and no word to stop is left.  Each run has the beats of its own time; one that is due when it is stopped may
be left out. -/
theorem heartbeat_restarts (hosts : Hosts cell seen) (view : View γ) {interval : Nat} (positive : 0 < interval)
    (late : List Nat) (arms : List Arm) (s : Scene γ) (fresh : seen s.world = some { interval, late, arms }) :
    (∀ moves, ∃ looks q, (playFrom s cell view moves).1 = some looks ∧
      Pulse.Course view.name { interval, late, now := s.now } moves looks q) ∧
    ∀ before during,
      let first := (playFrom s cell view before).2
      (cell.get first.world).isRunning = false → Move.stop ∉ during →
      let d := Move.lastsAll during
      let last := (playFrom s cell view (before ++ (.start :: during ++ [.stop]))).2
      last.now = first.now + d ∧
      ∃ added, (cell.get last.world).beats = (cell.get first.world).beats + added ∧
        (¬ interval ∣ d → added = d / interval) ∧
        (interval ∣ d → 0 < d → added = d / interval ∨ added = d / interval - 1) ∧ (d = 0 → added = 0) := by
  have begins := playFrom_ends hosts view fresh Follows.fresh rfl positive
  refine ⟨fun moves => ?_, fun before during => ?_⟩
  · obtain ⟨looks, q, s', h', shows, along, -⟩ := begins moves
    exact ⟨looks, q, congrArg Prod.fst shows, along⟩
  · intro first idle unstopped d last
    obtain ⟨looks, p, s₁, h₁, shows, along, held, f, now⟩ := begins before
    have same : p.interval = interval := along.interval
    obtain ⟨looks', q, s₂, h₂, shows', along', held', f', now'⟩ :=
      playFrom_ends hosts view held f now (same ▸ positive) (.start :: during ++ [.stop])
    have hfirst : first = s₁ := congrArg Prod.snd shows
    have hlast : last = s₂ := (playFrom_append shows _).trans (congrArg Prod.snd shows')
    rw [hfirst, hosts.get _ _ held] at idle ⊢
    rw [hlast, hosts.get _ _ held', f.beats, f'.beats, ← now, ← now']
    have stopped : p.since = none := by simpa [idle] using f.isRunning.symm
    obtain ⟨lasts, n, beats, counts⟩ := along'.run stopped unstopped
    have own : q.interval = interval := along'.interval.trans same
    exact ⟨lasts, n, beats, own ▸ counts.cases⟩

/-- A stage with one heartbeat on it. -/
def alone (interval : Nat) (late : List Nat) (arms : List Arm) : Scene Scenario.Beats.World :=
  { world := { manager := (), actors := [{ job := .heartbeat { interval, late, arms } }] } }

/-- Two runs that are stopped just when their second beat is due, and late: in the first one it is made before the word is
taken, in the other one the word comes first.  Then one that goes on for its whole time, and one that is stopped before it
begins. -/
theorem heartbeat_restarts_thrice :
    let late := [2000, 4000]
    let arms := List.replicate 8 Arm.beat ++ [.word]
    let played := playFrom (alone 1000 late arms) Scenario.Beats.cell (Scenario.Beats.view { name := "svcA" })
    let moves : List Move :=
      [.start, .wait 500, .start, .wait 1500, .stop, .start, .wait 2000, .stop, .start, .wait 2500, .stop, .start, .stop]
    let looks : List Look :=
      [⟨.ok (), 0, true, 0, 0⟩, ⟨.ok (), 500, true, 0, 0⟩, ⟨.error (Heartbeat.alreadyRunning "svcA"), 500, true, 0, 0⟩,
        ⟨.ok (), 2000, true, 1, 0⟩, ⟨.ok (), 2000, false, 2, 0⟩, ⟨.ok (), 2000, true, 2, 0⟩, ⟨.ok (), 4000, true, 3, 0⟩,
        ⟨.ok (), 4000, false, 3, 0⟩, ⟨.ok (), 4000, true, 3, 0⟩, ⟨.ok (), 6500, true, 5, 0⟩, ⟨.ok (), 6500, false, 5, 0⟩,
        ⟨.ok (), 6500, true, 5, 0⟩, ⟨.ok (), 6500, false, 5, 0⟩]
    (played moves).1 = some looks ∧ (∃ q, Pulse.Course "svcA" { interval := 1000, late, now := 0 } moves looks q) ∧
    (Scenario.Beats.cell.get (played ([.start, .wait 2000, .stop] ++ (.start :: [.wait 2500] ++ [.stop]))).2.world).beats =
      (Scenario.Beats.cell.get (played [.start, .wait 2000, .stop]).2.world).beats + 2 := by
  intro late arms played moves looks
  have hosts : Hosts Scenario.Beats.cell (heartbeatOn 0) := stage_hosts 0
  obtain ⟨courses, runs⟩ := heartbeat_restarts hosts (Scenario.Beats.view { name := "svcA" }) (by decide) late arms
    (alone 1000 late arms) rfl
  have shown : (played moves).1 = some looks := by decide +kernel
  refine ⟨shown, ?_, ?_⟩
  · obtain ⟨looks', q, shown', along⟩ := courses moves
    obtain rfl := Option.some.inj (shown'.symm.trans shown)
    exact ⟨q, along⟩
  · obtain ⟨-, added, beats, odd, -, -⟩ := runs [.start, .wait 2000, .stop] [.wait 2500] (by decide +kernel) (by decide)
    have two : added = 2 := odd (by decide)
    rw [two] at beats
    unfold played
    exact beats

end Courses

end ServiceControl.Workload
