import ServiceControl.Error
import ServiceControl.Journal
/-!
# Scenes

What operations act on: a clock in milliseconds, the journal, and a world `γ` that holds everything else.  An `Act` takes
no time; a `Call` is an act that may fail.  A `Cell` is a place in the world.  Main statement: writing a log line touches
nothing but the journal (`log_run`).
-/
namespace ServiceControl

structure Scene (γ : Type) where
  now : Nat := 0
  journal : Journal := []
  world : γ

/-- What is done at one instant. -/
abbrev Act (γ : Type) := StateM (Scene γ)

/-- An act that may be refused. -/
abbrev Call (γ : Type) := ExceptT ServiceError (Act γ)

/-- The outcome of what may fail, as a value. -/
def attempt {ε α : Type} {m : Type → Type} [Monad m] (c : ExceptT ε m α) : ExceptT ε m (Except ε α) :=
  ExceptT.mk (Except.ok <$> c.run)

/-- Obtains something that may fail, uses it, and gives it back whether the use fails or not. -/
def holding {ε α σ : Type} {m : Type → Type} [Monad m] (acquire : ExceptT ε m σ) (giveBack : σ → m Unit)
    (use : σ → ExceptT ε m α) : ExceptT ε m α := do
  let held ← acquire
  ExceptT.mk do
    let result ← (use held).run
    giveBack held
    return result

/-- A place in the world that holds an `α`. -/
structure Cell (γ α : Type) where
  get : γ → α
  set : α → γ → γ

namespace Cell

variable {γ α β : Type}

/-- The whole world as a place. -/
def whole : Cell γ γ := ⟨id, fun a _ => a⟩

/-- A place within a place. -/
def inside (outer : Cell γ α) (inner : Cell α β) : Cell γ β :=
  ⟨fun w => inner.get (outer.get w), fun b w => outer.set (inner.set b (outer.get w)) w⟩

/-- What is written is read again, a second writing takes the place of the first, and writing back what is there changes
nothing. -/
structure Lawful (c : Cell γ α) : Prop where
  get_set : ∀ a w, c.get (c.set a w) = a
  set_set : ∀ a b w, c.set a (c.set b w) = c.set a w
  set_get : ∀ w, c.set (c.get w) w = w

theorem whole_lawful : Lawful (whole : Cell γ γ) := ⟨fun _ _ => rfl, fun _ _ _ => rfl, fun _ => rfl⟩

theorem inside_lawful {outer : Cell γ α} {inner : Cell α β} (ho : outer.Lawful) (hi : inner.Lawful) :
    (outer.inside inner).Lawful where
  get_set b w := by simp [inside, ho.get_set, hi.get_set]
  set_set b c w := by simp [inside, ho.get_set, ho.set_set, hi.set_set]
  set_get w := by simp [inside, hi.set_get, ho.set_get]

end Cell

namespace Act

variable {γ σ : Type} {m : Type → Type} [Monad m] [MonadState (Scene γ) m]

def now : m Nat := do return (← get).now

/-- What a place holds. -/
def read (c : Cell γ σ) : m σ := do return c.get (← get).world

def update (c : Cell γ σ) (f : σ → σ) : m Unit := modify fun s => { s with world := c.set (f (c.get s.world)) s.world }

def write (c : Cell γ σ) (a : σ) : m Unit := update c fun _ => a

/-- Runs a step of what a place holds. -/
def takeFrom {α : Type} (c : Cell γ σ) (f : σ → α × σ) : m α :=
  modifyGet fun s => ((f (c.get s.world)).1, { s with world := c.set (f (c.get s.world)).2 s.world })

def log (level : Level) (text : String) : m Unit := modify fun s => { s with journal := ⟨level, text⟩ :: s.journal }

def debug (text : String) : m Unit := log .debug text

def info (text : String) : m Unit := log .info text

def warn (text : String) : m Unit := log .warn text

def error (text : String) : m Unit := log .error text

/-- **A log line goes to the journal and nowhere else.** -/
theorem log_run (level : Level) (text : String) (s : Scene γ) :
    (log level text : Act γ Unit).run s = ((), { s with journal := ⟨level, text⟩ :: s.journal }) := rfl

end Act

end ServiceControl
