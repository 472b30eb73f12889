import ServiceControl.Workload
/-!
# Scripted workloads

A workload whose callbacks take the time and fail as a script says, and which notes what it sees when one is called.
-/
namespace ServiceControl.Workload

/-- What one callback does: it takes some milliseconds, and then fails or not. -/
structure Response where
  ms : Nat := 0
  failure : Option Failure := none
  deriving Repr, Inhabited

/-- A callback that was called: at what time, and what the view told, if that was looked at. -/
structure Sighting where
  stopping : Bool
  instant : Nat
  told : Option (String × String) := none
  deriving DecidableEq, Repr, Inhabited

/-- The responses that are left, and what has happened so far; a callback without a response of its own succeeds at once. -/
structure Scripted where
  onStart : List Response := []
  onStop : List Response := []
  /-- Whether the callbacks look at the state of the service. -/
  observes : Bool := false
  starts : Nat := 0
  stops : Nat := 0
  /-- The latest first. -/
  seen : List Sighting := []
  deriving Repr, Inhabited

namespace Scripted

variable {γ : Type}

/-- Counts a callback and takes its response. -/
def call (stopping : Bool) (sighting : Sighting) (s : Scripted) : Response × Scripted :=
  if stopping then
    (s.onStop.headD {}, { s with onStop := s.onStop.tail, stops := s.stops + 1, seen := sighting :: s.seen })
  else
    (s.onStart.headD {}, { s with onStart := s.onStart.tail, starts := s.starts + 1, seen := sighting :: s.seen })

/-- What the view tells: the name, and the state under the display name. -/
def look (view : View γ) : Act γ (String × String) := do
  return (view.name, s!"{view.display}: {← view.status}")

def callback (cell : Cell γ Scripted) (stopping : Bool) (view : View γ) : Callback γ Unit := do
  let told ← if (← Act.read cell).observes then some <$> (look view : Act γ _) else pure none
  let response ← Act.takeFrom cell (call stopping ⟨stopping, ← Act.now, told⟩)
  (Task.sleep response.ms : Task γ Unit)
  match response.failure with
  | some failure => throw failure
  | none => return

end Scripted

/-- The scripted workload at a place in the world. -/
def scripted {γ : Type} (cell : Cell γ Scripted) : Workload γ where
  start := Scripted.callback cell false
  stop := Scripted.callback cell true

end ServiceControl.Workload
