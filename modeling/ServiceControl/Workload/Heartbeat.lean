import ServiceControl.Text.Duration
import ServiceControl.Workload
import ServiceControl.Workload.Notify
/-!
# The heartbeat

A workload that beats at a fixed interval.  Starting it spawns a beater, a task of its own that begins at its first turn
and then looks at two things, its next beat and the word to stop, and goes on with one of them.  Which of the two it looks
at first is not settled, nor is whether it has its turn before another task that wakes up at the same instant: a heartbeat
holds both choices for all looks and instants to come.  Main statement: a beater that goes on with a beat was due
(`due_of_beats`), so that each of its turns comes to an end.
-/
namespace ServiceControl.Workload

/-- What a beater looks at first. -/
inductive Arm
  | beat
  | word
  deriving DecidableEq, Repr, Inhabited

structure Beater where
  id : Nat
  name : String
  /-- When its next beat is due, once it has begun. -/
  due : Option Nat := none
  deriving DecidableEq, Repr, Inhabited

structure Heartbeat where
  /-- In milliseconds. -/
  interval : Nat
  beats : Nat := 0
  /-- A start that could not spawn leaves the heartbeat unusable. -/
  poisoned : Bool := false
  /-- The beater of the last start that no stop followed. -/
  current : Option Nat := none
  /-- The beaters that live, the oldest first. -/
  beaters : List Beater := []
  /-- The word to stop. -/
  shutdown : Notify := {}
  spawned : Nat := 0
  /-- What the beaters look at first, look by look: nothing settles it.  After these it is the beat. -/
  arms : List Arm := []
  /-- The instants at which a task that wakes up goes on before a beater that is due: nothing settles this either. -/
  late : List Nat := []
  deriving DecidableEq, Repr, Inhabited

namespace Heartbeat

def isAlive (h : Heartbeat) (id : Nat) : Bool := h.beaters.any fun b => b.id == id

def isRunning (h : Heartbeat) : Bool := !h.poisoned && h.current.any h.isAlive

/-! ## A look -/

/-- What comes of a look. -/
inductive Pick
  | beats
  | ends
  | waits
  deriving DecidableEq, Repr, Inhabited

/-- A task looks at its beat and at the word, at one of them first.  It asks for the word unless it has gone on with the
beat before. -/
def pick (first : Arm) (due : Bool) (id : Nat) (n : Notify) : Pick × Notify :=
  if first = .beat ∧ due then (.beats, n)
  else
    let (heard, n) := n.ask id
    (if heard then .ends else if due then .beats else .waits, n)

/-- **Only a beat that is due is made.** -/
theorem due_of_beats {first : Arm} {due : Bool} {id : Nat} {n : Notify} (h : (pick first due id n).1 = .beats) :
    due = true := by
  cases due with
  | true => rfl
  | false =>
    have asked : (pick first false id n).1 = if (n.ask id).1 then .ends else .waits := by simp [pick]
    rw [asked] at h
    split at h <;> cases h

/-- The next look of a beater, whose beat is due at an instant. -/
def look (now due id : Nat) (h : Heartbeat) : Pick × Heartbeat :=
  let (picked, shutdown) := pick (h.arms.headD .beat) (due ≤ now) id h.shutdown
  (picked, { h with shutdown, arms := h.arms.tail })

theorem due_of_look {now due id : Nat} {h h' : Heartbeat} (looked : h.look now due id = (.beats, h')) : due ≤ now :=
  of_decide_eq_true (due_of_beats (congrArg Prod.fst looked))

/-! ## A turn -/

/-- A beat.  The beater no longer waits for the word, and passes it on if it was given it. -/
def beat (b : Beater) (h : Heartbeat) : Heartbeat × LogLine :=
  ({ h with beats := h.beats + 1, shutdown := h.shutdown.leave b.id }, ⟨.debug, s!"{b.name} heartbeat {h.beats + 1}"⟩)

/-- A beater looks until it ends or has to wait. -/
def loop (now interval : Nat) (positive : 0 < interval) (b : Beater) (due : Nat) (h : Heartbeat) : Heartbeat × Journal :=
  match _hlook : h.look now due b.id with
  | (.ends, h) => (h, [])
  | (.waits, h) => ({ h with beaters := h.beaters ++ [{ b with due := some due }] }, [])
  | (.beats, h) =>
    let (h, line) := h.beat b
    let (h, lines) := loop now interval positive b (due + interval) h
    (h, lines ++ [line])
termination_by now + 1 - due
decreasing_by
  have reached : due ≤ now := due_of_look _hlook
  omega

/-- The turn of a beater.  In its first one the interval begins, and one that has none dies. -/
def turn (now : Nat) (h : Heartbeat) (b : Beater) : Heartbeat × Journal :=
  if positive : 0 < h.interval then loop now h.interval positive b (b.due.getD (now + h.interval)) h else (h, [])

/-- A beater has something to do: it has not begun, its beat is due, or it was given the word. -/
def isReady (now : Nat) (h : Heartbeat) (b : Beater) : Bool := b.due.all (· ≤ now) || b.id ∈ h.shutdown.told

/-- Each beater that has something to do has a turn. -/
def round (now : Nat) (h : Heartbeat) : Heartbeat × Journal :=
  h.beaters.foldl (fun (h, lines) b =>
    if h.isReady now b then
      let (h, more) := h.turn now b
      (h, more ++ lines)
    else ({ h with beaters := h.beaters ++ [b] }, lines)) ({ h with beaters := [] }, [])

/-- All that is to be done at an instant.  The second round is for a beater that was passed the word after its turn. -/
def settle (now : Nat) (h : Heartbeat) : Heartbeat × Journal :=
  let (h, lines) := h.round now
  let (h, more) := h.round now
  (h, more ++ lines)

def spawn (name : String) (h : Heartbeat) : Heartbeat :=
  { h with
    current := some h.spawned
    beaters := h.beaters ++ [⟨h.spawned, name, none⟩]
    spawned := h.spawned + 1 }

/-! ## The callbacks -/

variable {γ : Type}

/-- A callback that takes no time. -/
abbrev Prompt (γ : Type) := ExceptT Failure (Act γ)

def lockPoisoned : Failure := ⟨"heartbeat task lock poisoned", []⟩

def alreadyRunning (name : String) : Failure := ⟨s!"heartbeat for {name} is already running", []⟩

/-- What starting does before it spawns. -/
def beforeSpawn (cell : Cell γ Heartbeat) (view : View γ) : Prompt γ Unit := do
  let h ← Act.read cell
  if h.poisoned then throw lockPoisoned
  if h.current.isSome then throw (alreadyRunning view.name)
  Act.info s!"🚀 Starting heartbeat for {view.display} every {Text.duration h.interval}"

def start (cell : Cell γ Heartbeat) (view : View γ) : Prompt γ Unit := do
  beforeSpawn cell view
  Act.update cell (spawn view.name)

/-- Takes the current beater and gives it the word to stop: its number, or none where there is none. -/
def requestStop (cell : Cell γ Heartbeat) (view : View γ) : Prompt γ (Option Nat) := do
  Act.info s!"🛑 Stopping heartbeat for {view.display}"
  let h ← Act.read cell
  if h.poisoned then throw lockPoisoned
  match h.current with
  | none => Act.debug s!"Heartbeat for {view.name} was not running"
  | some _ => Act.write cell { h with current := none, shutdown := h.shutdown.notifyOne }
  return h.current

def isOver (cell : Cell γ Heartbeat) (id : Nat) : Wait γ := ⟨none, fun w => !(cell.get w).isAlive id⟩

def stop (cell : Cell γ Heartbeat) (view : View γ) : Callback γ Unit := do
  match ← requestStop cell view with
  | none => return
  | some id =>
    Task.await (isOver cell id)
    let h ← Act.read cell
    if h.interval = 0 then Act.warn "Heartbeat task ended abnormally: task panicked"
    Act.info s!"✅ Heartbeat stopped after {h.beats} beats"

/-! ## Callbacks where nothing can be spawned -/

/-- How a callback ends that is called where no task can run. -/
inductive Outside
  | finished (result : Except Failure Unit)
  | panicked
  | waiting

/-- Spawning dies while the heartbeat is held, and that poisons it. -/
def startOutside (cell : Cell γ Heartbeat) (view : View γ) : Act γ Outside := do
  match ← (beforeSpawn cell view).run with
  | .error failure => return .finished (.error failure)
  | .ok () =>
    Act.update cell fun h => { h with poisoned := true }
    return .panicked

/-- The word to stop is given, but one that still lives is not waited for. -/
def stopOutside (cell : Cell γ Heartbeat) (view : View γ) : Act γ Outside := do
  let before ← Act.read cell
  match ← (requestStop cell view).run with
  | .error failure => return .finished (.error failure)
  | .ok none => return .finished (.ok ())
  | .ok (some id) =>
    if before.isAlive id then return .waiting
    Act.info s!"✅ Heartbeat stopped after {before.beats} beats"
    return .finished (.ok ())

end Heartbeat

/-- The heartbeat at a place in the world. -/
def heartbeat {γ : Type} (cell : Cell γ Heartbeat) : Workload γ where
  start view := Heartbeat.start cell view
  stop := Heartbeat.stop cell

/-! ## Heartbeats as time goes by -/

namespace Heartbeat

/-- A beater that is due at an instant has its turn there before another task wakes up later on. -/
def isServed (h : Heartbeat) (later t : Nat) : Bool := t < later || t = later && t ∉ h.late

/-- The first instant after one and up to another at which a beat is due. -/
def nextDue? (since later : Nat) (h : Heartbeat) : Option Nat :=
  ((h.beaters.filterMap (·.due)).filter fun t => since < t && h.isServed later t).min?

theorem of_nextDue? {since later t : Nat} {h : Heartbeat} (next : h.nextDue? since later = some t) :
    since < t ∧ t ≤ later := by
  have due := (List.mem_filter.1 (List.min?_mem next)).2
  simp only [isServed, Bool.and_eq_true, Bool.or_eq_true, decide_eq_true_eq] at due
  omega

end Heartbeat

/-- Something is done with each heartbeat, and what they tell, the latest first. -/
def eachOf (f : Heartbeat → Heartbeat × Journal) (hs : List Heartbeat) : List Heartbeat × Journal :=
  let done := hs.map f
  (done.map (·.1), done.reverse.flatMap (·.2))

def settleAll (now : Nat) : List Heartbeat → List Heartbeat × Journal := eachOf (·.settle now)

/-- The first instant at which a beat of any of them is due. -/
def nextDueOf? (hs : List Heartbeat) (since later : Nat) : Option Nat :=
  (hs.filterMap (·.nextDue? since later)).min?

theorem of_nextDueOf? {hs : List Heartbeat} {since later t : Nat} (next : nextDueOf? hs since later = some t) :
    since < t ∧ t ≤ later := by
  obtain ⟨h, -, own⟩ := List.mem_filterMap.1 (List.min?_mem next)
  exact Heartbeat.of_nextDue? own

/-- Several heartbeats while the clock goes from one instant to another: it stops wherever a beat is due, and those that
are due there have their turns. -/
def passAll (hs : List Heartbeat) (since later : Nat) : List Heartbeat × Journal :=
  match _next : nextDueOf? hs since later with
  | none => (hs, [])
  | some t =>
    let (hs, lines) := eachOf (fun h => if h.nextDue? since later = some t then h.settle t else (h, [])) hs
    let (hs, more) := passAll hs t later
    (hs, more ++ lines)
termination_by later - since
decreasing_by
  have between : since < t ∧ t ≤ later := of_nextDueOf? _next
  omega

end ServiceControl.Workload
