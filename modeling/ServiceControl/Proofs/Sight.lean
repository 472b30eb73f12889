import ServiceControl.Task
/-!
# Runs seen through a place

A run changes many things, and what is to be said of it mostly concerns the clock and one place of the world.  `Leads`
says what a program comes to seen through that place; its rules put a run together from the runs of its parts.  A place is
undisturbed if nothing touches it beside the program, so that waiting changes the clock alone (`Leads.sleep`).
-/
namespace ServiceControl

variable {γ α β δ ε : Type}

/-- What is seen of a scene: the time, and what the place holds. -/
structure Sight (β : Type) where
  now : Nat
  held : β

/-! ## Programs -/

/-- Monads whose programs are run in a scene: what a program comes to, unless it waits for good, and the scene after it. -/
class Playable (γ : outParam Type) (m : Type → Type) [Monad m] [MonadStateOf (Scene γ) m] extends LawfulMonad m where
  play : {α : Type} → m α → Scene γ → Option α × Scene γ
  play_pure : ∀ {α : Type} (a : α) (s : Scene γ), play (pure a) s = (some a, s)
  play_bind : ∀ {α β : Type} (x : m α) (f : α → m β) (s : Scene γ), play (x >>= f) s =
    match play x s with
    | (some a, s') => play (f a) s'
    | (none, s') => (none, s')
  play_get : ∀ s : Scene γ, play (MonadState.get : m (Scene γ)) s = (some s, s)
  play_modifyGet : ∀ {α : Type} (f : Scene γ → α × Scene γ) (s : Scene γ),
    play (modifyGet f) s = (some (f s).1, (f s).2)

instance : Playable γ (Act γ) where
  play x s := (some (x s).1, (x s).2)
  play_pure _ _ := rfl
  play_bind _ _ _ := rfl
  play_get _ := rfl
  play_modifyGet _ _ := rfl

instance [Background γ] : Playable γ (Task γ) where
  play t s := t.finish s
  play_pure _ _ := rfl
  play_bind t f s := Step.finish_bind (t s) f
  play_get _ := rfl
  play_modifyGet _ _ := rfl

namespace Cell

open Playable

section Rules

variable {m : Type → Type} [Monad m] [MonadStateOf (Scene γ) m] [Playable γ m]

def sight (c : Cell γ β) (s : Scene γ) : Sight β := ⟨s.now, c.get s.world⟩

/-- **What a program comes to, seen through a place.**  No result means that it waits for good. -/
def Leads (c : Cell γ β) (x : m α) (before : Sight β) (result : Option α) (after : Sight β) : Prop :=
  ∀ s, c.sight s = before → (play x s).1 = result ∧ c.sight (play x s).2 = after

/-- A program that may fail comes to an end, with a value or an error. -/
def Returns (c : Cell γ β) (x : ExceptT ε m α) (before : Sight β) (result : Except ε α) (after : Sight β) : Prop :=
  c.Leads x.run before (some result) after

variable {c : Cell γ β} {σ₁ σ₂ σ₃ σ₄ : Sight β}

theorem Leads.pure (a : α) : c.Leads (Pure.pure a : m α) σ₁ (some a) σ₁ := by
  intro s hs
  rw [play_pure]
  exact ⟨rfl, hs⟩

theorem Leads.bind {x : m α} {f : α → m δ} {a : α} {r : Option δ} (hx : c.Leads x σ₁ (some a) σ₂)
    (hf : c.Leads (f a) σ₂ r σ₃) : c.Leads (x >>= f) σ₁ r σ₃ := by
  intro s hs
  obtain ⟨hr, hσ⟩ := hx s hs
  rw [play_bind]
  rcases hp : play x s with ⟨_, s'⟩
  rw [hp] at hr hσ
  obtain rfl : _ = some a := hr
  exact hf s' hσ

/-- What comes after a wait for good does not begin. -/
theorem Leads.bind_none {x : m α} {f : α → m δ} (hx : c.Leads x σ₁ none σ₂) : c.Leads (x >>= f) σ₁ none σ₂ := by
  intro s hs
  obtain ⟨hr, hσ⟩ := hx s hs
  rw [play_bind]
  rcases hp : play x s with ⟨_, s'⟩
  rw [hp] at hr hσ
  obtain rfl : _ = none := hr
  exact ⟨rfl, hσ⟩

theorem Leads.map {x : m α} {a : α} (f : α → δ) (hx : c.Leads x σ₁ (some a) σ₂) :
    c.Leads (f <$> x) σ₁ (some (f a)) σ₂ := by
  rw [map_eq_pure_bind]
  exact hx.bind (.pure _)

/-- A step that may look at the scene and change it. -/
theorem Leads.step {f : Scene γ → α × Scene γ} {a : α}
    (hf : ∀ s, c.sight s = σ₁ → (f s).1 = a ∧ c.sight (f s).2 = σ₂) :
    c.Leads (modifyGet f : m α) σ₁ (some a) σ₂ := by
  intro s hs
  obtain ⟨ha, hσ⟩ := hf s hs
  rw [play_modifyGet, ha]
  exact ⟨rfl, hσ⟩

/-- A program that begins with a look at the scene. -/
theorem Leads.get {f : Scene γ → m δ} {r : Option δ} (hf : ∀ s, c.sight s = σ₁ → c.Leads (f s) σ₁ r σ₂) :
    c.Leads (MonadState.get >>= f) σ₁ r σ₂ := by
  intro s hs
  rw [play_bind, play_get]
  exact hf s hs s hs

theorem Leads.log (level : Level) (text : String) : c.Leads (Act.log level text : m Unit) σ₁ (some ()) σ₁ :=
  .step fun _ hs => ⟨rfl, hs⟩

theorem Leads.now : c.Leads (Act.now : m Nat) σ₁ (some σ₁.now) σ₁ := by
  refine .get ?_
  rintro _ rfl
  exact .pure _

theorem Leads.takeFrom (lawful : c.Lawful) (f : β → α × β) :
    c.Leads (Act.takeFrom c f : m α) σ₁ (some (f σ₁.held).1) ⟨σ₁.now, (f σ₁.held).2⟩ := by
  refine .step ?_
  rintro s rfl
  exact ⟨rfl, by simp only [sight, lawful.get_set]⟩

theorem Leads.update (lawful : c.Lawful) (f : β → β) :
    c.Leads (Act.update c f : m Unit) σ₁ (some ()) ⟨σ₁.now, f σ₁.held⟩ := by
  refine .step ?_
  rintro s rfl
  exact ⟨rfl, by simp only [sight, lawful.get_set]⟩

/-! A place within the place that is seen. -/

theorem Leads.takeFrom_inside (lawful : c.Lawful) (inner : Cell β δ) (f : δ → α × δ) :
    c.Leads (Act.takeFrom (c.inside inner) f : m α) σ₁ (some (f (inner.get σ₁.held)).1)
      ⟨σ₁.now, inner.set (f (inner.get σ₁.held)).2 σ₁.held⟩ := by
  refine .step ?_
  rintro s rfl
  exact ⟨rfl, by simp only [sight, inside, lawful.get_set]⟩

theorem Leads.update_inside (lawful : c.Lawful) (inner : Cell β δ) (f : δ → δ) :
    c.Leads (Act.update (c.inside inner) f : m Unit) σ₁ (some ()) ⟨σ₁.now, inner.set (f (inner.get σ₁.held)) σ₁.held⟩ := by
  refine .step ?_
  rintro s rfl
  exact ⟨rfl, by simp only [sight, inside, lawful.get_set]⟩

/-! ## Programs that may fail -/

theorem Returns.pure (a : α) : c.Returns (Pure.pure a : ExceptT ε m α) σ₁ (.ok a) σ₁ := Leads.pure _

theorem Returns.throw (e : ε) : c.Returns (MonadExcept.throw e : ExceptT ε m α) σ₁ (.error e) σ₁ := Leads.pure _

theorem Returns.bind {x : ExceptT ε m α} {f : α → ExceptT ε m δ} {a : α} {r : Except ε δ}
    (hx : c.Returns x σ₁ (.ok a) σ₂) (hf : c.Returns (f a) σ₂ r σ₃) : c.Returns (x >>= f) σ₁ r σ₃ :=
  Leads.bind (m := m) hx hf

/-- What comes after a failure is left out. -/
theorem Returns.bind_error {x : ExceptT ε m α} {f : α → ExceptT ε m δ} {e : ε} (hx : c.Returns x σ₁ (.error e) σ₂) :
    c.Returns (x >>= f) σ₁ (.error e) σ₂ :=
  Leads.bind (m := m) hx (.pure _)

/-- A program that cannot fail, within one that may. -/
theorem Returns.lift {x : m α} {a : α} (hx : c.Leads x σ₁ (some a) σ₂) :
    c.Returns (liftM x : ExceptT ε m α) σ₁ (.ok a) σ₂ :=
  hx.map Except.ok

theorem Leads.lift {x : m α} {r : Option α} (hx : c.Leads x σ₁ r σ₂) :
    c.Leads (liftM x : ExceptT ε m α).run σ₁ (r.map Except.ok) σ₂ := by
  cases r with
  | some a => exact Returns.lift hx
  | none =>
    show c.Leads (Except.ok <$> x) σ₁ none σ₂
    rw [map_eq_pure_bind]
    exact hx.bind_none

/-- A result that is at hand. -/
theorem Returns.result (r : Except ε α) : c.Returns (liftM r : ExceptT ε m α) σ₁ r σ₁ := Leads.pure _

theorem Returns.attempt {x : ExceptT ε m α} {r : Except ε α} (hx : c.Returns x σ₁ r σ₂) :
    c.Returns (attempt x) σ₁ (.ok r) σ₂ :=
  Leads.map (m := m) Except.ok hx

/-- An error is told in other words. -/
theorem Returns.adapt {ε' : Type} {x : ExceptT ε m α} {r : Except ε α} (explain : ε → ε') (hx : c.Returns x σ₁ r σ₂) :
    c.Returns (ExceptT.adapt explain x) σ₁ (r.mapError explain) σ₂ :=
  Leads.map (m := m) (Except.mapError explain) hx

/-- What is held is given back, however its use ends. -/
theorem Returns.holding {acquire : ExceptT ε m δ} {giveBack : δ → m Unit} {use : δ → ExceptT ε m α} {held : δ}
    {r : Except ε α} (ha : c.Returns acquire σ₁ (.ok held) σ₂) (hu : c.Returns (use held) σ₂ r σ₃)
    (hg : c.Leads (giveBack held) σ₃ (some ()) σ₄) : c.Returns (holding acquire giveBack use) σ₁ r σ₄ :=
  ha.bind (Leads.bind (m := m) hu (hg.bind (.pure _)))

/-- What cannot be obtained is neither used nor given back. -/
theorem Returns.holding_error {acquire : ExceptT ε m δ} {giveBack : δ → m Unit} {use : δ → ExceptT ε m α} {e : ε}
    (ha : c.Returns acquire σ₁ (.error e) σ₂) :
    c.Returns (ServiceControl.holding acquire giveBack use) σ₁ (.error e) σ₂ :=
  ha.bind_error

theorem Leads.get_run {f : Scene γ → ExceptT ε m δ} {r : Option (Except ε δ)}
    (hf : ∀ s, c.sight s = σ₁ → c.Leads (f s).run σ₁ r σ₂) : c.Leads (MonadState.get >>= f).run σ₁ r σ₂ := by
  have hrun : (MonadState.get >>= f).run = (MonadState.get : m (Scene γ)) >>= fun s => (f s).run :=
    ExceptT.run_bind_lift _ _
  rw [hrun]
  exact .get hf

theorem Returns.get {f : Scene γ → ExceptT ε m δ} {r : Except ε δ}
    (hf : ∀ s, c.sight s = σ₁ → c.Returns (f s) σ₁ r σ₂) : c.Returns (MonadState.get >>= f) σ₁ r σ₂ :=
  Leads.get_run hf

theorem Returns.log (level : Level) (text : String) :
    c.Returns (Act.log level text : ExceptT ε m Unit) σ₁ (.ok ()) σ₁ :=
  .lift (.log level text)

theorem Returns.now : c.Returns (Act.now : ExceptT ε m Nat) σ₁ (.ok σ₁.now) σ₁ := by
  refine .get ?_
  rintro _ rfl
  exact .pure _

/-- What a program comes to seen through a place within another can be told at each thing that the outer one may hold. -/
theorem Returns.inside {inner : Cell β δ} {x : ExceptT ε m α} {r : Except ε α} {now later : Nat} {d d' : δ}
    (h : ∀ b, inner.get b = d → ∃ b', inner.get b' = d' ∧ c.Returns x ⟨now, b⟩ r ⟨later, b'⟩) :
    (c.inside inner).Returns x ⟨now, d⟩ r ⟨later, d'⟩ := by
  intro s hs
  obtain ⟨rfl, hd⟩ := Sight.mk.inj hs
  obtain ⟨b', rfl, hx⟩ := h (c.get s.world) hd
  obtain ⟨hr, hσ⟩ := hx s rfl
  exact ⟨hr, congrArg (fun σ : Sight β => Sight.mk σ.now (inner.get σ.held)) hσ⟩

theorem Returns.read_inside (inner : Cell β δ) :
    c.Returns (Act.read (c.inside inner) : ExceptT ε m δ) σ₁ (.ok (inner.get σ₁.held)) σ₁ := by
  refine .get ?_
  rintro _ rfl
  exact .pure _

end Rules

/-! ## Time -/

section Time

variable [Background γ]

/-- **Nothing touches the place beside the programs that are run.** -/
structure Still (c : Cell γ β) : Prop where
  get_settle : ∀ now w, c.get (Background.settle now w).1 = c.get w
  get_pass : ∀ since later w, c.get (Background.pass since later w).1 = c.get w

structure Undisturbed (c : Cell γ β) : Prop extends c.Lawful, c.Still

theorem inside_still {outer : Cell γ α} (ho : outer.Still) (inner : Cell α β) : (outer.inside inner).Still where
  get_settle now w := by simp only [inside, ho.get_settle]
  get_pass since later w := by simp only [inside, ho.get_pass]

theorem inside_undisturbed {outer : Cell γ α} {inner : Cell α β} (ho : outer.Undisturbed) (hi : inner.Lawful) :
    (outer.inside inner).Undisturbed where
  toLawful := inside_lawful ho.toLawful hi
  toStill := inside_still ho.toStill inner

variable {c : Cell γ β} {σ₁ σ₂ : Sight β}

/-- What takes no time is done within a task. -/
theorem Leads.act {x : Act γ α} {r : Option α} (hx : c.Leads x σ₁ r σ₂) : c.Leads (liftM x : Task γ α) σ₁ r σ₂ := hx

theorem Returns.act {x : Act γ α} {a : α} (hx : c.Leads x σ₁ (some a) σ₂) :
    c.Returns (liftM x : ExceptT ε (Task γ) α) σ₁ (.ok a) σ₂ :=
  .lift (Leads.act hx)

theorem Returns.call {x : ExceptT ε (Act γ) α} {r : Except ε α} (hx : c.Returns x σ₁ r σ₂) :
    c.Returns (liftM x : ExceptT ε (Task γ) α) σ₁ r σ₂ := hx

/-- What is told of a task that may fail is what it has come to. -/
theorem Returns.finish {x : ExceptT ε (Task γ) α} {s after : Scene γ} {r r' : Except ε α}
    (hx : c.Returns x (c.sight s) r σ₂) (done : x.run.finish s = (some r', after)) : r' = r ∧ c.sight after = σ₂ := by
  obtain ⟨hr, hσ⟩ := hx s rfl
  have done : Playable.play x.run s = (some r', after) := done
  rw [done] at hr hσ
  exact ⟨Option.some.inj hr, hσ⟩

variable (still : c.Still)
include still

/-- **Waiting until an instant changes the clock alone.** -/
theorem Leads.sleepUntil (instant : Nat) :
    c.Leads (Task.sleepUntil instant : Task γ Unit) σ₁ (some ()) ⟨max σ₁.now instant, σ₁.held⟩ := by
  rintro s rfl
  have hover : ∀ s' : Scene γ, s'.now = s.now → (Wait.till instant).isOver s' = decide (instant ≤ s.now) := by
    intro s' h
    simp only [Wait.isOver, Wait.isDue, Wait.till, h, Bool.false_or]
  have hplay : play (Task.sleepUntil instant : Task γ Unit) s
      = (Step.afterWait (.till instant) (fun s => .done () s) s).finish := rfl
  rw [hplay]
  by_cases h : instant ≤ s.now
  · rw [Step.afterWait, hover s rfl, decide_eq_true h, if_pos rfl, Step.finish]
    exact ⟨rfl, by simp only [sight, Nat.max_eq_left h]⟩
  · rw [Step.afterWait, hover s rfl, decide_eq_false h, if_neg Bool.false_ne_true, Step.finish, hover s rfl,
      hover s.settle rfl, decide_eq_false h, if_neg Bool.false_ne_true, if_neg Bool.false_ne_true]
    refine ⟨rfl, ?_⟩
    show Sight.mk instant (c.get (Background.pass s.now instant (Background.settle s.now s.world).1).1) = _
    rw [still.get_pass, still.get_settle]
    simp only [sight, Nat.max_eq_right (Nat.le_of_not_le h)]

theorem Leads.wakeAt {now instant later : Nat} {held : β} (h : max now instant = later) :
    c.Leads (Task.sleepUntil instant : Task γ Unit) ⟨now, held⟩ (some ()) ⟨later, held⟩ := by
  subst h
  exact Leads.sleepUntil still instant

theorem Leads.sleep (ms : Nat) : c.Leads (Task.sleep ms : Task γ Unit) σ₁ (some ()) ⟨σ₁.now + ms, σ₁.held⟩ := by
  rintro s rfl
  have h := Leads.sleepUntil still (s.now + ms) s rfl
  have later : max (c.sight s).now (s.now + ms) = s.now + ms := Nat.max_eq_right (Nat.le_add_right _ _)
  rwa [later] at h

/-- A wait for something that nothing brings about. -/
theorem Leads.await_nothing : c.Leads (Task.await ⟨none, fun _ => false⟩ : Task γ Unit) σ₁ none σ₁ := by
  rintro s rfl
  refine ⟨rfl, ?_⟩
  show Sight.mk s.now (c.get (Background.settle s.now s.world).1) = _
  rw [still.get_settle, sight]

/-- **Waiting for a task with a clock of its own** comes to what the task does, and waits for good if it does. -/
theorem Leads.apart {t : Task γ α} {r : Option α} {now later : Nat} {held held' : β}
    (ht : c.Leads t ⟨now, held⟩ r ⟨later, held'⟩) :
    c.Leads (Task.apart t) ⟨now, held⟩ (r.map fun _ => ()) ⟨now, held'⟩ := by
  intro s hs
  obtain ⟨hr, hσ⟩ := ht s hs
  obtain ⟨rfl, -⟩ := Sight.mk.inj hs
  have hheld : c.get (t.finish s).2.world = held' := congrArg Sight.held hσ
  have hplay : play (Task.apart t) s = (Task.apart t s).finish := rfl
  rw [hplay]
  unfold Task.apart
  rw [show t.finish s = (r, (t.finish s).2) from Prod.ext hr rfl]
  cases r with
  | some a => exact ⟨rfl, congrArg (Sight.mk s.now) hheld⟩
  | none =>
    obtain ⟨hnone, hback⟩ := Leads.await_nothing still { (t.finish s).2 with now := s.now } rfl
    exact ⟨hnone, hback.trans (congrArg (Sight.mk s.now) hheld)⟩

end Time

end Cell

end ServiceControl
