import ServiceControl.Task
/-!
# Shutdown

A context ends an interactive run once its trigger is fired.  A trigger is a number, and the state of all of them is the
set of those that were fired; a trigger that is let go of unfired leaves its context waiting for good.  One who waits for
a trigger hears when it is fired and also when nobody has it any more, and must not take the one for the other
(`untilCancelled`).  Main statements: a context is cancelled exactly when its own trigger was fired
(`isCancelled_fire_iff`), and once cancelled it stays so.
-/
namespace ServiceControl.Shutdown

/-- What an interactive run looks at: nothing, or a trigger. -/
inductive Context
  | never
  | of (trigger : Nat)
  deriving DecidableEq, Repr, Inhabited

/-- All triggers: how many there are, and which were fired. -/
structure Triggers where
  count : Nat := 0
  fired : List Nat := []
  deriving DecidableEq, Repr, Inhabited

namespace Triggers

/-- A new trigger, which is not fired. -/
def create (ts : Triggers) : Nat × Triggers := (ts.count, { ts with count := ts.count + 1 })

def fire (trigger : Nat) (ts : Triggers) : Triggers := { ts with fired := trigger :: ts.fired }

/-- The trigger of this context was fired. -/
def isCancelled (ts : Triggers) : Context → Bool
  | .never => false
  | .of trigger => ts.fired.contains trigger

/-- **Firing a trigger cancels its own contexts and no other.** -/
theorem isCancelled_fire_iff (ts : Triggers) (trigger : Nat) (c : Context) :
    (ts.fire trigger).isCancelled c = true ↔ c = .of trigger ∨ ts.isCancelled c = true := by
  cases c with
  | never => simp [isCancelled]
  | of t => simp [isCancelled, fire, Context.of.injEq]

/-- **Once cancelled, always cancelled.** -/
theorem isCancelled_fire {ts : Triggers} {c : Context} (trigger : Nat) (h : ts.isCancelled c = true) :
    (ts.fire trigger).isCancelled c = true :=
  (isCancelled_fire_iff ts trigger c).2 (.inr h)

theorem isCancelled_create (ts : Triggers) (c : Context) : ts.create.2.isCancelled c = ts.isCancelled c := by
  cases c <;> rfl

end Triggers

/-- Over once the context is cancelled. -/
def cancelled {γ : Type} (triggers : Cell γ Triggers) (c : Context) : Wait γ :=
  ⟨none, fun w => (triggers.get w).isCancelled c⟩

/-- Triggers, and those of them that nobody has any more. -/
structure Channels where
  triggers : Triggers := {}
  gone : List Nat := []
  deriving DecidableEq, Repr, Inhabited

/-- What is heard of a trigger. -/
inductive News
  | fired
  | gone
  deriving DecidableEq, Repr, Inhabited

namespace Channels

def create (cs : Channels) : Nat × Channels := (cs.triggers.create.1, { cs with triggers := cs.triggers.create.2 })

def fire (trigger : Nat) (cs : Channels) : Channels := { cs with triggers := cs.triggers.fire trigger }

def letGo (trigger : Nat) (cs : Channels) : Channels := { cs with gone := trigger :: cs.gone }

/-- What there is to hear of a trigger.  That it was fired is heard also when it is gone. -/
def news? (cs : Channels) (trigger : Nat) : Option News :=
  if cs.triggers.fired.contains trigger then some .fired
  else if cs.gone.contains trigger then some .gone
  else none

end Channels

/-- Waits until there is something to hear of a trigger. -/
def hear {γ : Type} (channels : Cell γ Channels) (trigger : Nat) : Task γ (Option News) := do
  Task.await ⟨none, fun w => ((channels.get w).news? trigger).isSome⟩
  return (← (Act.read channels : Act γ Channels)).news? trigger

/-- Waits until the context is cancelled.  That its trigger is gone does not cancel it. -/
def untilCancelled {γ : Type} (channels : Cell γ Channels) : Context → Task γ Unit
  | .never => Task.await .never
  | .of trigger => do
    match ← hear channels trigger with
    | some .fired => return
    | _ => Task.await .never

end ServiceControl.Shutdown
