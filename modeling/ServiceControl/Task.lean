import ServiceControl.Scene
/-!
# Tasks

A task takes time: it acts until it has to wait, and goes on in the scene in which the wait is over.  It is a value, a
tree of what to do in whatever scene it wakes up in, so a task always comes to its end or to a wait that nothing ends.
`Step.finish` runs one task alone, `Task.within` gives it a time limit, and `Task.both` runs two side by side in a fixed
order of turns.  Main statements: tasks are a lawful monad, and a task that is bound to another finishes as the two do
one after the other (`finish_bind`).
-/
namespace ServiceControl

/-- What a task waits for: an instant, a condition on the world, or whichever comes first. -/
structure Wait (γ : Type) where
  due : Option Nat
  met : γ → Bool

namespace Wait

variable {γ : Type}

/-- Nothing ends this wait. -/
def never : Wait γ := ⟨none, fun _ => false⟩

def till (instant : Nat) : Wait γ := ⟨some instant, fun _ => false⟩

/-- The instant of a wait has come. -/
def isDue (w : Wait γ) (now : Nat) : Bool :=
  match w.due with
  | some t => t ≤ now
  | none => false

def isOver (w : Wait γ) (s : Scene γ) : Bool := w.met s.world || w.isDue s.now

/-- The earlier of two instants that may be absent. -/
def sooner : Option Nat → Option Nat → Option Nat
  | some a, some b => some (min a b)
  | some a, none => some a
  | none, b => b

/-- Over when one of the two is. -/
def or (v w : Wait γ) : Wait γ := ⟨sooner v.due w.due, fun x => v.met x || w.met x⟩

end Wait

/-- A task in a scene: it has ended, or it waits and knows how to go on. -/
inductive Step (γ α : Type) : Type
  | done (a : α) (s : Scene γ)
  | wait (w : Wait γ) (s : Scene γ) (resume : Scene γ → Step γ α)

namespace Step

variable {γ α β δ : Type}

/-- The scene that the task has left behind so far. -/
def scene : Step γ α → Scene γ
  | done _ s => s
  | wait _ s _ => s

def bind : Step γ α → (α → Scene γ → Step γ β) → Step γ β
  | done a s, f => f a s
  | wait w s k, f => wait w s fun s' => (k s').bind f

def map (f : α → β) (x : Step γ α) : Step γ β := x.bind fun a s => done (f a) s

@[simp] theorem bind_done (x : Step γ α) : x.bind done = x := by
  induction x with
  | done a s => rfl
  | wait w s k ih => simp [bind, ih]

theorem bind_assoc (x : Step γ α) (f : α → Scene γ → Step γ β) (g : β → Scene γ → Step γ δ) :
    (x.bind f).bind g = x.bind fun a s => (f a s).bind g := by
  induction x with
  | done a s => rfl
  | wait w s k ih => simp [bind, ih]

/-- Goes on if the wait is over, and else waits. -/
def afterWait (w : Wait γ) (k : Scene γ → Step γ α) (s : Scene γ) : Step γ α :=
  if w.isOver s then k s else wait w s k

end Step

/-- What is done in a scene, over time. -/
def Task (γ α : Type) : Type := Scene γ → Step γ α

namespace Task

variable {γ α β : Type}

protected def pure (a : α) : Task γ α := fun s => .done a s

protected def bind (t : Task γ α) (f : α → Task γ β) : Task γ β := fun s => (t s).bind fun a s' => f a s'

instance : Monad (Task γ) where
  pure := Task.pure
  bind := Task.bind

instance : LawfulMonad (Task γ) :=
  LawfulMonad.mk' (Task γ) (fun t => funext fun s => Step.bind_done (t s)) (fun _ _ => rfl)
    fun t _ _ => funext fun s => Step.bind_assoc (t s) _ _

/-- An act as a task that takes no time. -/
def act (a : Act γ α) : Task γ α := fun s => .done (a s).1 (a s).2

instance : MonadLift (Act γ) (Task γ) := ⟨act⟩

instance : MonadStateOf (Scene γ) (Task γ) where
  get := act get
  set s := act (set s)
  modifyGet f := act (modifyGet f)

/-- Waits, unless the wait is already over. -/
def await (w : Wait γ) : Task γ Unit := Step.afterWait w fun s => .done () s

/-- Waits until an instant, unless it has passed. -/
def sleepUntil (instant : Nat) : Task γ Unit := await (.till instant)

def sleep (ms : Nat) : Task γ Unit := fun s => sleepUntil (s.now + ms) s

/-- Takes another result from the same task. -/
def andThen (t : Task γ α) (f : α → β) : Task γ β := fun s => (t s).map f

end Task

/-! ## Running one task alone -/

/-- What happens in the world beside a task.  `settle` is what is still to be done at an instant, and `pass` what happens
while the clock goes from one instant to another: the new world, and the log lines, the latest first. -/
class Background (γ : Type) where
  settle : Nat → γ → γ × Journal
  pass : Nat → Nat → γ → γ × Journal

/-- A world in which nothing happens by itself. -/
@[reducible] def Background.still (γ : Type) : Background γ := ⟨fun _ w => (w, []), fun _ _ w => (w, [])⟩

namespace Scene

variable {γ : Type} [Background γ]

def settle (s : Scene γ) : Scene γ :=
  let (world, lines) := Background.settle s.now s.world
  ⟨s.now, lines ++ s.journal, world⟩

/-- The scene at a later instant. -/
def advance (later : Nat) (s : Scene γ) : Scene γ :=
  let (world, lines) := Background.pass s.now later s.world
  ⟨later, lines ++ s.journal, world⟩

end Scene

namespace Step

variable {γ α β : Type} [Background γ]

/-- Runs a task to its end.  Whenever it waits, what else is to be done at the instant is done, and then the clock goes to
the instant that it waits for.  No result means that it waits for something that nothing brings about. -/
def finish : Step γ α → Option α × Scene γ
  | done a s => (some a, s)
  | wait w s k =>
    if w.isOver s then (k s).finish
    else if w.isOver s.settle then (k s.settle).finish
    else
      match w.due with
      | some t => (k (s.settle.advance t)).finish
      | none => (none, s.settle)

/-- Runs a task as long as no time has to go by. -/
def goOn : Step γ α → Step γ α
  | done a s => done a s
  | wait w s k =>
    if w.isOver s then (k s).goOn
    else if w.isOver s.settle then (k s.settle).goOn
    else wait w s k

/-- **What is bound to a task goes on where the task ends**, and does not run after one that never ends. -/
theorem finish_bind (x : Step γ α) (f : α → Scene γ → Step γ β) :
    (x.bind f).finish = match x.finish with
      | (some a, s) => (f a s).finish
      | (none, s) => (none, s) := by
  induction x with
  | done a s => rfl
  | wait w s k ih =>
    simp only [bind, finish]
    split
    · exact ih _
    · split
      · exact ih _
      · split
        · exact ih _
        · rfl

end Step

/-- Runs a task from a scene to its end. -/
def Task.finish {γ α : Type} [Background γ] (t : Task γ α) (s : Scene γ) : Option α × Scene γ := (t s).finish

namespace Task

variable {γ α β : Type} [Background γ] {t : Task γ α} {f : α → Task γ β} {s s' : Scene γ}

theorem finish_bind_some {a : α} (h : t.finish s = (some a, s')) : (t >>= f).finish s = (f a).finish s' := by
  refine (Step.finish_bind (t s) _).trans ?_
  rw [show (t s).finish = (some a, s') from h]
  rfl

theorem finish_bind_none (h : t.finish s = (none, s')) : (t >>= f).finish s = (none, s') := by
  refine (Step.finish_bind (t s) _).trans ?_
  rw [show (t s).finish = (none, s') from h]

end Task

/-- Waits for a task that has a clock of its own: back at the caller no time has gone by.  For a task that never ends the
caller waits for good. -/
def Task.apart {γ α : Type} [Background γ] (t : Task γ α) : Task γ Unit := fun s =>
  let (a, after) := t.finish s
  let back := { after with now := s.now }
  match a with
  | some _ => .done () back
  | none => await .never back

/-! ## Limits and companions -/

namespace Step

variable {γ α β : Type}

/-- Gives a task up at an instant.  One that can go on at that very instant does so first. -/
def within (limit : Nat) : Step γ α → Step γ (Option α)
  | done a s => done (some a) s
  | wait w s k =>
    afterWait (w.or (.till limit)) (fun s' => if w.isOver s' then (k s').within limit else done none s') s

/-- The turn of a second task while a first one waits for `w`.  Once the first can go on it has the next turn: `first` is
the rest of both from there. -/
def meanwhile (w : Wait γ) (k : Scene γ → Step γ α) (first : Scene γ → Task γ β → Step γ (α × β)) :
    Step γ β → Step γ (α × β)
  | done b s => afterWait w (fun s' => (k s').map (·, b)) s
  | wait v s j =>
    if w.isOver s then first s (afterWait v j)
    else wait (w.or v) s fun s' =>
      if w.isOver s' then first s' (afterWait v j) else (j s').meanwhile w k first

/-- A task with a second one beside it, which has its turn whenever the first waits or has ended. -/
def both : Step γ α → Task γ β → Step γ (α × β)
  | done a s, second => (second s).map (a, ·)
  | wait w s k, second => (second s).meanwhile w k fun s' second' => (k s').both second'

end Step

namespace Task

variable {γ α β : Type}

/-- A task that is given up after a time, without a result then. -/
def within (ms : Nat) (t : Task γ α) : Task γ (Option α) := fun s => (t s).within (s.now + ms)

/-- Two tasks side by side.  Each goes on as long as it can; then the other has its turn, and when the clock has moved
the first of the two is asked first. -/
def both (first : Task γ α) (second : Task γ β) : Task γ (α × β) := fun s => (first s).both second

end Task

/-- A task that may fail. -/
abbrev Op (γ : Type) := ExceptT ServiceError (Task γ)

/-- What may fail at an instant may also fail within a task. -/
instance {γ ε : Type} : MonadLift (ExceptT ε (Act γ)) (ExceptT ε (Task γ)) := ⟨fun c => ExceptT.mk (Task.act c.run)⟩

end ServiceControl
