import ServiceControl.Proofs.Beside
import ServiceControl.Shutdown
/-!
# Contexts through time

Contexts are made and cloned, and their triggers are fired and let go of, in any order.  A context is cancelled exactly if
the trigger that it was made with was fired (`isCancelled_iff`), and one who waits for it goes on at that instant, or at
once if it was fired before, whatever happens to any trigger meanwhile (`waitFor_beside`).  Main statement: what
there is to see of a context, at every moment and for good (`context_lifecycle`).
-/
namespace ServiceControl.Shutdown

/-! ## Moves -/

/-- What may be done with contexts and triggers. -/
inductive Move
  /-- A new trigger, and the context that goes with it. -/
  | create
  | never
  | clone (context : Nat)
  | fire (trigger : Nat)
  | letGo (trigger : Nat)
  deriving DecidableEq, Repr

/-- All contexts that there are, and their triggers. -/
structure Estate where
  channels : Channels := {}
  contexts : List Context := []

namespace Estate

def channelsCell : Cell Estate Channels := ⟨(·.channels), fun cs e => { e with channels := cs }⟩

def triggersCell : Cell Estate Triggers :=
  ⟨(·.channels.triggers), fun ts e => { e with channels := { e.channels with triggers := ts } }⟩

def fired (e : Estate) : List Nat := e.channels.triggers.fired

def gone (e : Estate) : List Nat := e.channels.gone

/-- The context under this number is cancelled. -/
def isCancelled (e : Estate) (context : Nat) : Bool :=
  match e.contexts[context]? with
  | some c => e.channels.triggers.isCancelled c
  | none => false

end Estate

namespace Move

def apply : Move → Estate → Estate
  | create, e => ⟨e.channels.create.2, e.contexts ++ [.of e.channels.create.1]⟩
  | never, e => { e with contexts := e.contexts ++ [.never] }
  | clone i, e => { e with contexts := e.contexts ++ [e.contexts[i]?.getD .never] }
  | fire t, e => { e with channels := e.channels.fire t }
  | letGo t, e => { e with channels := e.channels.letGo t }

/-- Only what is there can be cloned, fired or let go of, and nobody has a trigger that is gone. -/
def Possible : Move → Estate → Prop
  | create, _ | never, _ => True
  | clone i, e => i < e.contexts.length
  | fire t, e | letGo t, e => t < e.channels.triggers.count ∧ t ∉ e.gone

variable {m : Move} {e : Estate} {t : Nat}

theorem mem_fired_apply : t ∈ (m.apply e).fired ↔ m = .fire t ∨ t ∈ e.fired := by
  cases m with
  | fire u =>
    show t ∈ u :: e.fired ↔ _
    rw [List.mem_cons, fire.injEq, @eq_comm _ t]
  | _ => exact ⟨.inr, fun h => h.resolve_left nofun⟩

theorem mem_gone_apply : t ∈ (m.apply e).gone ↔ m = .letGo t ∨ t ∈ e.gone := by
  cases m with
  | letGo u =>
    show t ∈ u :: e.gone ↔ _
    rw [List.mem_cons, letGo.injEq, @eq_comm _ t]
  | _ => exact ⟨.inr, fun h => h.resolve_left nofun⟩

end Move

/-! ## Histories -/

/-- A move and when it is made. -/
abbrev Event := Nat × Move

def Estate.after (e : Estate) (events : List Event) : Estate := events.foldl (fun e event => event.2.apply e) e

/-- Each move is possible when it is made. -/
def Possible : Estate → List Event → Prop
  | _, [] => True
  | e, event :: rest => event.2.Possible e ∧ Possible (event.2.apply e) rest

/-- When a trigger is fired for the first time, if it ever is. -/
def firing (trigger : Nat) (events : List Event) : Option Nat :=
  (events.find? fun event => event.2 = .fire trigger).map (·.1)

/-- How many triggers were made, and of each context the trigger that it was made with, if with any. -/
structure Lineage where
  made : Nat := 0
  owners : List (Option Nat) := []

/-- A clone has the trigger of its original. -/
def Lineage.next (l : Lineage) : Move → Lineage
  | .create => ⟨l.made + 1, l.owners ++ [some l.made]⟩
  | .never => { l with owners := l.owners ++ [none] }
  | .clone i => { l with owners := l.owners ++ [l.owners[i]?.join] }
  | .fire _ | .letGo _ => l

def Lineage.after (l : Lineage) (events : List Event) : Lineage := events.foldl (fun l event => l.next event.2) l

/-- The trigger that each context was made with, after these events. -/
def owners (events : List Event) : List (Option Nat) := (Lineage.after {} events).owners

/-- A context that was made with this trigger, or with none. -/
def Context.owned : Option Nat → Context
  | some trigger => .of trigger
  | none => .never

section Histories

variable {e : Estate} {events rest : List Event} {time t : Nat} {m : Move}

theorem firing_cons : firing t ((time, m) :: rest) = if m = .fire t then some time else firing t rest := by
  unfold firing
  rw [List.find?_cons]
  by_cases own : m = .fire t
  · rw [if_pos own, decide_eq_true own]
    rfl
  · rw [if_neg own, decide_eq_false own]

/-- A move is as good as made at its time. -/
theorem firing_apply : (if t ∈ (m.apply e).fired then some time else firing t rest) =
    if t ∈ e.fired then some time else firing t ((time, m) :: rest) := by
  rw [firing_cons]
  by_cases own : m = .fire t
  · rw [if_pos (Move.mem_fired_apply.2 (.inl own)), if_pos own, ite_self]
  · have same : t ∈ (m.apply e).fired ↔ t ∈ e.fired := Move.mem_fired_apply.trans (or_iff_right own)
    simp only [if_neg own, same]

theorem mem_fired_after : t ∈ (e.after events).fired ↔ t ∈ e.fired ∨ ∃ time, (time, .fire t) ∈ events := by
  unfold Estate.after
  induction events generalizing e with
  | nil => simp
  | cons event rest ih =>
    obtain ⟨time, m⟩ := event
    rw [List.foldl_cons, ih, Move.mem_fired_apply, or_comm (a := m = _), or_assoc]
    refine or_congr_right ⟨?_, ?_⟩
    · rintro (rfl | ⟨u, hu⟩)
      · exact ⟨time, List.mem_cons_self⟩
      · exact ⟨u, List.mem_cons_of_mem _ hu⟩
    · rintro ⟨u, hu⟩
      rcases List.mem_cons.1 hu with same | hu
      · exact .inl (Prod.mk.inj same).2.symm
      · exact .inr ⟨u, hu⟩

theorem possible_append : Possible e (events ++ rest) → Possible e events ∧ Possible (e.after events) rest := by
  unfold Estate.after
  induction events generalizing e with
  | nil => exact fun possible => ⟨trivial, possible⟩
  | cons event events ih =>
    rintro ⟨first, possible⟩
    obtain ⟨before, later⟩ := ih possible
    exact ⟨⟨first, before⟩, later⟩

theorem firing_append : firing t (events ++ rest) = (firing t events).or (firing t rest) := by
  unfold firing
  rw [List.find?_append, Option.map_or]

theorem mem_of_firing (h : firing t events = some time) : (time, .fire t) ∈ events := by
  obtain ⟨⟨u, m⟩, found, rfl⟩ := Option.map_eq_some_iff.1 h
  have own := List.find?_some found
  obtain rfl : m = .fire t := of_decide_eq_true own
  exact List.mem_of_find?_eq_some found

theorem firing_eq_none_iff : firing t events = none ↔ ∀ time, (time, .fire t) ∉ events := by
  unfold firing
  rw [Option.map_eq_none_iff, List.find?_eq_none]
  constructor
  · exact fun never time there => never _ there (decide_eq_true rfl)
  · rintro never ⟨time, m⟩ there own
    obtain rfl : m = .fire t := of_decide_eq_true own
    exact never time there

/-- A trigger that is gone is not fired any more. -/
theorem firing_gone (possible : Possible e events) (gone : t ∈ e.gone) : firing t events = none := by
  induction events generalizing e with
  | nil => rfl
  | cons event rest ih =>
    obtain ⟨time, m⟩ := event
    obtain ⟨now, later⟩ := possible
    have other : m ≠ .fire t := by
      rintro rfl
      exact now.2 gone
    rw [firing_cons, if_neg other]
    exact ih later (Move.mem_gone_apply.2 (.inr gone))

/-- The contexts of an estate are told by their lineage. -/
structure Lineage.Tells (l : Lineage) (e : Estate) : Prop where
  made : e.channels.triggers.count = l.made
  contexts : e.contexts = l.owners.map Context.owned

theorem Lineage.Tells.next {l : Lineage} (h : l.Tells e) (m : Move) : (l.next m).Tells (m.apply e) := by
  obtain ⟨made, contexts⟩ := h
  cases m with
  | create =>
    refine ⟨congrArg (· + 1) made, ?_⟩
    show e.contexts ++ [.of e.channels.triggers.count] = (l.owners ++ [some l.made]).map Context.owned
    rw [contexts, made, List.map_append]
    rfl
  | never =>
    refine ⟨made, ?_⟩
    show e.contexts ++ [.never] = (l.owners ++ [none]).map Context.owned
    rw [contexts, List.map_append]
    rfl
  | clone i =>
    refine ⟨made, ?_⟩
    show e.contexts ++ [e.contexts[i]?.getD .never] = (l.owners ++ [l.owners[i]?.join]).map Context.owned
    rw [contexts, List.map_append, List.getElem?_map]
    cases l.owners[i]? <;> rfl
  | fire t => exact ⟨made, contexts⟩
  | letGo t => exact ⟨made, contexts⟩

theorem Lineage.Tells.after {l : Lineage} (h : l.Tells e) : (l.after events).Tells (e.after events) := by
  unfold Lineage.after Estate.after
  induction events generalizing l e with
  | nil => exact h
  | cons event rest ih => exact ih (h.next event.2)

variable {i : Nat} {own : Option Nat}

theorem context_of_owner (owner : (owners events)[i]? = some own) :
    (Estate.after {} events).contexts[i]? = some (Context.owned own) := by
  have tells : (Lineage.after {} events).Tells (Estate.after {} events) := Lineage.Tells.after ⟨rfl, rfl⟩
  rw [tells.contexts, List.getElem?_map]
  exact congrArg (Option.map Context.owned) owner

/-- **A context is cancelled exactly if the trigger that it was made with was fired.** -/
theorem isCancelled_iff (owner : (owners events)[i]? = some own) :
    (Estate.after {} events).isCancelled i = true ↔ ∃ t ∈ own, ∃ time, (time, .fire t) ∈ events := by
  have fired := fun t => @mem_fired_after {} events t
  rw [Estate.isCancelled, context_of_owner owner]
  cases own with
  | none => exact ⟨nofun, nofun⟩
  | some trigger =>
    show (Estate.after {} events).fired.contains trigger = true ↔ _
    rw [List.contains_iff_mem, fired]
    exact ⟨fun h => ⟨trigger, rfl, h.resolve_left nofun⟩, fun ⟨_, same, h⟩ => Option.some.inj same ▸ .inr h⟩

theorem owners_append (owner : (owners events)[i]? = some own) (later : List Event) :
    (owners (events ++ later))[i]? = some own := by
  unfold owners Lineage.after at owner ⊢
  rw [List.foldl_append]
  generalize List.foldl _ _ events = l at owner ⊢
  induction later generalizing l with
  | nil => exact owner
  | cons event rest ih =>
    refine ih _ ?_
    have inside : ∀ other : Option Nat, (l.owners ++ [other])[i]? = some own := by
      intro other
      rw [List.getElem?_append_left (List.getElem?_eq_some_iff.1 owner).1]
      exact owner
    obtain ⟨time, m⟩ := event
    cases m with
    | fire t => exact owner
    | letGo t => exact owner
    | _ => exact inside _

end Histories

/-! ## Waiting -/

variable {γ : Type}

theorem afterWait_bind {α β : Type} (v : Wait γ) (k : Scene γ → Step γ α) (f : α → Scene γ → Step γ β) (s : Scene γ) :
    (Step.afterWait v k s).bind f = Step.afterWait v (fun s' => (k s').bind f) s := by
  unfold Step.afterWait
  split <;> rfl

/-- The events one after another, each at its time. -/
def play (place : Cell γ Estate) : List Event → Task γ Unit
  | [] => return
  | (time, move) :: rest => do
    Task.sleepUntil time
    Act.update place move.apply
    play place rest

/-- The scene after a move. -/
def moved (place : Cell γ Estate) (m : Move) (s : Scene γ) : Scene γ :=
  { s with world := place.set (m.apply (place.get s.world)) s.world }

theorem play_cons (place : Cell γ Estate) (time : Nat) (m : Move) (rest : List Event) :
    play place ((time, m) :: rest) = Step.afterWait (.till time) fun s => play place rest (moved place m s) := by
  funext s
  show (Step.afterWait (.till time) (.done ()) s).bind (fun _ s' => play place rest (moved place m s')) = _
  rw [afterWait_bind]
  rfl

/-- Over once this is heard in the estate. -/
def hearing (place : Cell γ Estate) (heard : Estate → Bool) : Wait γ := ⟨none, fun w => heard (place.get w)⟩

theorem hearing_isOver (place : Cell γ Estate) (heard : Estate → Bool) (s : Scene γ) :
    (hearing place heard).isOver s = heard (place.get s.world) := Bool.or_false _

/-- What one does who waits for a trigger: once it was fired he tells the time, and what else he may hear of it is that it
is gone, and then he waits for good. -/
structure Listens (place : Cell γ Estate) (trigger : Nat) (heard : Estate → Bool) (k : Scene γ → Step γ Nat) : Prop where
  fired : ∀ s : Scene γ, trigger ∈ (place.get s.world).fired →
    heard (place.get s.world) = true ∧ k s = .done s.now s
  unfired : ∀ s : Scene γ, trigger ∉ (place.get s.world).fired → heard (place.get s.world) = true →
    trigger ∈ (place.get s.world).gone ∧ ∃ k', k s = .wait .never s k'

section Waiting

variable [Background γ] {place : Cell γ Estate} {events : List Event} {s : Scene γ}

theorem play_ends (undisturbed : place.Undisturbed) (σ : Sight Estate) :
    ∃ σ', place.Leads (play place events) σ (some ()) σ' := by
  induction events generalizing σ with
  | nil => exact ⟨σ, .pure ()⟩
  | cons event rest ih =>
    obtain ⟨time, m⟩ := event
    obtain ⟨σ', leads⟩ := ih ⟨max σ.now time, m.apply σ.held⟩
    exact ⟨σ', (Cell.Leads.sleepUntil undisturbed.toStill time).bind
      (Cell.Leads.bind (.update undisturbed.toLawful m.apply) leads)⟩

/-- The events come to their end beside one who has what he waited for. -/
theorem play_map (undisturbed : place.Undisturbed) {α : Type} (a : α) :
    ((play place events s).map (a, ·)).finish.1 = some (a, ()) := by
  have ended : (play place events s).finish.1 = some () := by
    obtain ⟨σ', leads⟩ := play_ends undisturbed (place.sight s)
    exact (leads s rfl).1
  rw [Step.map, Step.finish_bind]
  cases played : (play place events s).finish with
  | mk result after =>
    rw [played] at ended
    obtain rfl : result = some () := ended
    rfl

theorem get_advance (undisturbed : place.Undisturbed) (s : Scene γ) (later : Nat) :
    place.get (s.settle.advance later).world = place.get s.world := by
  show place.get (Background.pass s.now later (Background.settle s.now s.world).1).1 = _
  rw [undisturbed.get_pass, undisturbed.get_settle]

/-- One who waits beside another that waits for an instant goes on at that instant, unless he hears something before. -/
theorem finish_hearing {α : Type} (undisturbed : place.Undisturbed) {heard : Estate → Bool} {time : Nat}
    (quiet : heard (place.get s.world) = false) (ahead : s.now < time) (f : Scene γ → Step γ α) :
    (Step.wait ((hearing place heard).or (.till time)) s f).finish = (f (s.settle.advance time)).finish := by
  have before : ¬ time ≤ s.now := Nat.not_le.2 ahead
  have till : ∀ t : Scene γ, t.now = s.now → (Wait.till time).isOver t = false := fun t same =>
    Bool.eq_false_iff.2 fun come => before (same ▸ Wait.isOver_till.1 come)
  have settled : heard (place.get s.settle.world) = false := by
    rw [Scene.settle, undisturbed.get_settle]
    exact quiet
  have waiting : ∀ t : Scene γ, t.now = s.now → heard (place.get t.world) = false →
      ((hearing place heard).or (.till time)).isOver t = false := by
    intro t same unheard
    rw [Wait.isOver_or, till t same, Bool.or_false]
    show (heard (place.get t.world) || false) = false
    rw [unheard]
    rfl
  rw [Step.finish, waiting s rfl quiet, waiting s.settle rfl settled]
  rfl

/-- **One who waits for good does so whatever happens.** -/
theorem meanwhile_never (undisturbed : place.Undisturbed) {α : Type} (k : Scene γ → Step γ α)
    (first : Scene γ → Task γ Unit → Step γ (α × Unit)) :
    ((play place events s).meanwhile .never k first).finish.1 = none := by
  induction events generalizing s with
  | nil =>
    show (Step.afterWait .never _ s).finish.1 = none
    rw [Step.finish_afterWait]
    rfl
  | cons event rest ih =>
    obtain ⟨time, m⟩ := event
    rw [play_cons, Step.afterWait]
    by_cases come : (Wait.till time).isOver s = true
    · rw [if_pos come]
      exact ih
    · rw [if_neg come]
      have ahead : s.now < time := Nat.not_le.1 fun h => come (Wait.isOver_till.2 h)
      show (Step.wait ((hearing place fun _ => false).or (.till time)) s _).finish.1 = none
      rw [finish_hearing undisturbed rfl ahead]
      exact ih

variable {trigger : Nat} {heard : Estate → Bool} {k : Scene γ → Step γ Nat}

/-- One who has heard something: that the trigger was fired ends the wait, and that it is gone does not. -/
theorem Listens.resumed (h : Listens place trigger heard k) (undisturbed : place.Undisturbed)
    (possible : Possible (place.get s.world) events) (told : heard (place.get s.world) = true) :
    ((k s).both (play place events)).finish.1 =
      (if trigger ∈ (place.get s.world).fired then some s.now else firing trigger events).map (·, ()) := by
  by_cases fired : trigger ∈ (place.get s.world).fired
  · rw [if_pos fired, (h.fired s fired).2]
    exact play_map undisturbed s.now
  · obtain ⟨gone, k', waits⟩ := h.unfired s fired told
    rw [if_neg fired, firing_gone possible gone, waits]
    exact meanwhile_never undisturbed k' _

/-- **One who listens to a trigger goes on when it is first fired**, whatever else is done meanwhile, and at once if it was
fired already. -/
theorem Listens.meanwhile (h : Listens place trigger heard k) (undisturbed : place.Undisturbed)
    (possible : Possible (place.get s.world) events) (later : ∀ event ∈ events, s.now ≤ event.1)
    (order : (events.map (·.1)).Pairwise (· ≤ ·)) :
    ((play place events s).meanwhile (hearing place heard) k fun s' second => (k s').both second).finish.1 =
      (if trigger ∈ (place.get s.world).fired then some s.now else firing trigger events).map (·, ()) := by
  induction events generalizing s with
  | nil =>
    show (Step.afterWait (hearing place heard) (fun s' => (k s').map (·, ())) s).finish.1 = _
    rw [Step.afterWait, hearing_isOver]
    by_cases told : heard (place.get s.world) = true
    · rw [if_pos told, ← Step.finish_both_pure]
      exact h.resumed undisturbed possible told
    · have unfired : trigger ∉ (place.get s.world).fired := fun fired => told (h.fired s fired).1
      have settled : place.get s.settle.world = place.get s.world := undisturbed.get_settle s.now s.world
      rw [if_neg told, if_neg unfired, Step.finish, hearing_isOver, hearing_isOver, settled, if_neg told, if_neg told]
      rfl
  | cons event rest ih =>
    obtain ⟨time, m⟩ := event
    obtain ⟨soon, after⟩ := List.forall_mem_cons.1 later
    obtain ⟨next, sorted⟩ := List.pairwise_cons.1 order
    have turn : ∀ s' : Scene γ, s'.now = time → place.get s'.world = place.get s.world →
        ((play place rest (moved place m s')).meanwhile (hearing place heard) k
          fun s' second => (k s').both second).finish.1 =
        (if trigger ∈ (place.get s.world).fired then some time else firing trigger ((time, m) :: rest)).map (·, ()) := by
      rintro s' rfl same
      have held : place.get (moved place m s').world = m.apply (place.get s.world) := by
        rw [moved, undisturbed.get_set, same]
      have played := ih (s := moved place m s') (held ▸ possible.2)
        (fun event there => next event.1 (List.mem_map_of_mem there)) sorted
      rw [held] at played
      -- once the event was played, the wait is as if begun then
      exact played.trans (congrArg _ firing_apply)
    rw [play_cons, Step.afterWait]
    -- the event is due now, or the one who listens and the events wait for it together
    by_cases come : (Wait.till time).isOver s = true
    · have now : s.now = time := Nat.le_antisymm soon (Wait.isOver_till.1 come)
      rw [if_pos come, turn s now rfl, now]
    · have ahead : s.now < time := Nat.not_le.1 fun h => come (Wait.isOver_till.2 h)
      rw [if_neg come, Step.meanwhile, hearing_isOver]
      by_cases told : heard (place.get s.world) = true
      · rw [if_pos told, ← play_cons]
        exact h.resumed undisturbed possible told
      · have unfired : trigger ∉ (place.get s.world).fired := fun fired => told (h.fired s fired).1
        have same := get_advance undisturbed s time
        rw [if_neg told, finish_hearing undisturbed (Bool.eq_false_iff.2 told) ahead, hearing_isOver, same, if_neg told,
          turn _ rfl same, if_neg unfired, if_neg unfired]

theorem Listens.beside (h : Listens place trigger heard k) (undisturbed : place.Undisturbed)
    (possible : Possible (place.get s.world) events) (later : ∀ event ∈ events, s.now ≤ event.1)
    (order : (events.map (·.1)).Pairwise (· ≤ ·)) :
    ((Step.afterWait (hearing place heard) k s).both (play place events)).finish.1 =
      (if trigger ∈ (place.get s.world).fired then some s.now else firing trigger events).map (·, ()) := by
  rw [Step.afterWait, hearing_isOver]
  by_cases told : heard (place.get s.world) = true
  · rw [if_pos told]
    exact h.resumed undisturbed possible told
  · rw [if_neg told]
    exact h.meanwhile undisturbed possible later order

/-! ### The wait itself -/

/-- Waits until the context is cancelled, and tells when that was. -/
def waitFor (place : Cell γ Estate) (c : Context) : Task γ Nat := do
  untilCancelled (place.inside Estate.channelsCell) c
  Act.now

def resume (place : Cell γ Estate) (trigger : Nat) (s : Scene γ) : Step γ Nat :=
  match (place.get s.world).channels.news? trigger with
  | some .fired => .done s.now s
  | _ => .wait .never s fun s' => .done s'.now s'

omit [Background γ] in
theorem waitFor_of (place : Cell γ Estate) (trigger : Nat) (s : Scene γ) : waitFor place (.of trigger) s =
    Step.afterWait (hearing place fun e => (e.channels.news? trigger).isSome) (resume place trigger) s := by
  have goes_on : ∀ s' : Scene γ, ((match (place.get s'.world).channels.news? trigger with
      | some .fired => return
      | _ => Task.await .never : Task γ Unit) s').bind (fun _ s'' => .done s''.now s'') = resume place trigger s' := by
    intro s'
    unfold resume
    rcases (place.get s'.world).channels.news? trigger with _ | _ | _ <;> rfl
  have unfolded : waitFor place (.of trigger) s =
      (Step.afterWait (hearing place fun e => (e.channels.news? trigger).isSome) (.done ()) s).bind fun _ s' =>
        ((match (place.get s'.world).channels.news? trigger with
          | some .fired => return
          | _ => Task.await .never : Task γ Unit) s').bind (fun _ s'' => .done s''.now s'') := by
    simp only [waitFor, untilCancelled, hear, bind_assoc]
    rfl
  rw [unfolded, afterWait_bind]
  simp only [Step.bind, goes_on]

/-! ### Who listens -/

omit [Background γ] in
theorem listens_waitFor (place : Cell γ Estate) (trigger : Nat) :
    Listens place trigger (fun e => (e.channels.news? trigger).isSome) (resume place trigger) where
  fired s there := by
    have news : (place.get s.world).channels.news? trigger = some .fired := if_pos (List.contains_iff_mem.2 there)
    rw [resume, news]
    exact ⟨rfl, rfl⟩
  unfired s absent told := by
    have unfired : ¬ (place.get s.world).channels.triggers.fired.contains trigger = true :=
      fun there => absent (List.contains_iff_mem.1 there)
    by_cases gone : (place.get s.world).channels.gone.contains trigger = true
    · have news : (place.get s.world).channels.news? trigger = some .gone := by
        rw [Channels.news?, if_neg unfired, if_pos gone]
      refine ⟨List.contains_iff_mem.1 gone, fun s' => .done s'.now s', ?_⟩
      rw [resume, news]
    · rw [Channels.news?, if_neg unfired, if_neg gone] at told
      cases told

/-- **One who waits for a context goes on when its trigger is first fired**, whatever else is done meanwhile, and at once if
it was fired already. -/
theorem waitFor_beside (undisturbed : place.Undisturbed) (possible : Possible (place.get s.world) events)
    (later : ∀ event ∈ events, s.now ≤ event.1) (order : (events.map (·.1)).Pairwise (· ≤ ·)) (trigger : Nat) :
    (((waitFor place (.of trigger)).both (play place events)).finish s).1 =
      (if trigger ∈ (place.get s.world).fired then some s.now else firing trigger events).map (·, ()) := by
  show ((waitFor place (.of trigger) s).both (play place events)).finish.1 = _
  rw [waitFor_of]
  exact (listens_waitFor place trigger).beside undisturbed possible later order

/-- **One who waits for a context without a trigger waits for good.** -/
theorem waitFor_never (undisturbed : place.Undisturbed) :
    (((waitFor place .never).both (play place events)).finish s).1 = none :=
  meanwhile_never undisturbed _ _

/-- **To look whether the context is cancelled**, as an interactive run does, **is to wait for it.**  A trigger that is
gone is no matter to one who only looks. -/
theorem await_cancelled (undisturbed : place.Undisturbed) (possible : Possible (place.get s.world) events)
    (later : ∀ event ∈ events, s.now ≤ event.1) (order : (events.map (·.1)).Pairwise (· ≤ ·)) (c : Context) :
    ((Task.both (do Task.await (cancelled (place.inside Estate.triggersCell) c); Act.now)
      (play place events)).finish s).1 = (((waitFor place c).both (play place events)).finish s).1 := by
  cases c with
  | never =>
    rw [waitFor_never undisturbed]
    exact meanwhile_never undisturbed _ _
  | of trigger =>
    have looks : Listens place trigger (fun e => e.channels.triggers.isCancelled (.of trigger)) fun s => .done s.now s :=
      ⟨fun s there => ⟨List.contains_iff_mem.2 there, rfl⟩,
        fun s absent told => absurd (List.contains_iff_mem.1 told) absent⟩
    have same : (do Task.await (cancelled (place.inside Estate.triggersCell) (.of trigger)); Act.now : Task γ Nat) s =
        Step.afterWait (hearing place fun e => e.channels.triggers.isCancelled (.of trigger))
          (fun s => .done s.now s) s := by
      show (Step.afterWait (hearing place fun e => e.channels.triggers.isCancelled (.of trigger)) (.done ()) s).bind
        (fun _ s' => .done s'.now s') = _
      rw [afterWait_bind]
      rfl
    rw [waitFor_beside undisturbed possible later order, ← looks.beside undisturbed possible later order, ← same]
    rfl

end Waiting

/-! ## The life of a context -/

/-- **Contexts, at every moment.**  Whatever was done until an instant and is done from then on: a context, and each clone of
it, is cancelled exactly if the trigger that it was made with was fired, and what is done later changes that only if it
fires this trigger.  One who begins to wait for it at that instant goes on at the first firing of this trigger, at once if
that lies in the past, and never if there is none. -/
theorem context_lifecycle {past future : List Event} {w : Nat} (possible : Possible {} (past ++ future))
    (order : ((past ++ future).map (·.1)).Pairwise (· ≤ ·)) (before : ∀ event ∈ past, event.1 ≤ w)
    (later : ∀ event ∈ future, w ≤ event.1) {i : Nat} {own : Option Nat} (owner : (owners past)[i]? = some own) :
    ((Estate.after {} past).isCancelled i = true ↔ ∃ t ∈ own, ∃ time, (time, .fire t) ∈ past) ∧
    (∀ next, (Estate.after {} (past ++ next)).isCancelled i = true ↔
      (Estate.after {} past).isCancelled i = true ∨ ∃ t ∈ own, ∃ time, (time, .fire t) ∈ next) ∧
    (∀ time, (owners (past ++ [(time, .clone i)]))[(owners past).length]? = some own) ∧
    ∃ c, (Estate.after {} past).contexts[i]? = some c ∧
      ∀ {γ : Type} [Background γ] {place : Cell γ Estate} {s : Scene γ}, place.Undisturbed → s.now = w →
        place.get s.world = Estate.after {} past →
        (((waitFor place c).both (play place future)).finish s).1 =
          (own.bind fun t => firing t (past ++ future)).map fun f => (max w f, ()) := by
  have cancelled := isCancelled_iff owner
  refine ⟨cancelled, fun next => ?_, fun time => ?_, Context.owned own, context_of_owner owner, ?_⟩
  · rw [isCancelled_iff (owners_append owner next), cancelled]
    simp only [List.mem_append, exists_or, and_or_left]
  · show ((Lineage.after {} (past ++ [(time, .clone i)])).owners)[(owners past).length]? = _
    unfold Lineage.after
    rw [List.foldl_append]
    show (owners past ++ [(owners past)[i]?.join])[(owners past).length]? = _
    rw [List.getElem?_concat_length, owner]
    rfl
  · rintro γ background place s undisturbed rfl held
    have possible := held ▸ (possible_append possible).2
    rw [List.map_append, List.pairwise_append] at order
    cases own with
    | none => exact waitFor_never undisturbed
    | some t =>
      have fired : t ∈ (place.get s.world).fired ↔ ∃ time, (time, .fire t) ∈ past := by
        rw [held, mem_fired_after]
        exact or_iff_right List.not_mem_nil
      show (((waitFor place (.of t)).both (play place future)).finish s).1 = (firing t (past ++ future)).map _
      rw [waitFor_beside undisturbed possible later order.2.1, firing_append]
      cases hpast : firing t past with
      | some f =>
        have there := mem_of_firing hpast
        rw [if_pos (fired.2 ⟨f, there⟩)]
        show some (s.now, ()) = some (max s.now f, ())
        rw [Nat.max_eq_left (before _ there)]
      | none =>
        rw [if_neg fun h => (fired.1 h).elim (firing_eq_none_iff.1 hpast), Option.none_or]
        cases hfuture : firing t future with
        | none => rfl
        | some f =>
          show some (f, ()) = some (max s.now f, ())
          rw [Nat.max_eq_right (later _ (mem_of_firing hfuture))]

/-- A clone is cancelled by the trigger of its original, which is let go of right after; another trigger is let go of
unfired. -/
theorem context_lifecycle_cloned :
    let past : List Event := [(0, .create), (0, .create), (1, .clone 0)]
    let future : List Event := [(4, .fire 0), (4, .letGo 0), (6, .letGo 1)]
    let s : Scene Estate := { now := 2, world := Estate.after {} past }
    let waited (c : Context) := (@Task.finish _ _ (.still Estate) ((waitFor .whole c).both (play .whole future)) s).1
    Possible {} (past ++ future) ∧ (Estate.after {} past).isCancelled 2 = false ∧
      (Estate.after {} (past ++ future)).isCancelled 2 = true ∧ waited (.of 0) = some (4, ()) ∧ waited (.of 1) = none := by
  intro past future s waited
  have possible : Possible {} (past ++ future) := by
    have two : 0 < 2 ∧ 1 < 2 := by decide
    have held : 0 ∉ ([] : List Nat) ∧ 1 ∉ [0] := by decide
    exact ⟨trivial, trivial, two.1, ⟨two.1, held.1⟩, ⟨two.1, held.1⟩, ⟨two.2, held.2⟩, trivial⟩
  have whole : @Cell.Undisturbed _ _ (.still Estate) Cell.whole :=
    @Cell.Undisturbed.mk _ _ (.still Estate) _ Cell.whole_lawful
      (@Cell.Still.mk _ _ (.still Estate) _ (fun _ _ => rfl) fun _ _ _ => rfl)
  obtain ⟨now, next, -, c, hc, waits⟩ :=
    @context_lifecycle past future 2 possible (by decide) (by decide) (by decide) 2 _ rfl
  obtain ⟨-, -, -, c', hc', waits'⟩ :=
    @context_lifecycle past future 2 possible (by decide) (by decide) (by decide) 1 _ rfl
  obtain rfl : c = .of 0 := (Option.some.inj hc).symm
  obtain rfl : c' = .of 1 := (Option.some.inj hc').symm
  have unfired : ¬ ∃ t ∈ some 0, ∃ time, (time, .fire t) ∈ past := by simp [past]
  have fires : ∃ t ∈ some 0, ∃ time, (time, .fire t) ∈ future := ⟨0, rfl, 4, List.mem_cons_self⟩
  exact ⟨possible, Bool.eq_false_iff.2 (mt now.1 unfired), (next future).2 (.inr fires),
    @waits _ (.still Estate) _ s whole rfl rfl, @waits' _ (.still Estate) _ s whole rfl rfl⟩

end ServiceControl.Shutdown
