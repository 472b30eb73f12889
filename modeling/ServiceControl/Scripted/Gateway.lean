import ServiceControl.Gateway
/-!
# Scripted gateways

A gateway whose replies are written down beforehand, one list for each kind of call, and which keeps every call with the
time it was made.  The last reply of a list is repeated; a call without replies succeeds.  A call takes its reply and is
kept before it takes effect.
-/
namespace ServiceControl.Scripted

inductive Kind
  | connect
  | openEntry
  | create
  | query
  | start
  | control
  | setRecovery
  | delete
  | registerLogSource
  | removeLogSource
  | terminate
  | dispatch
  deriving DecidableEq, Repr, Inhabited

/-- A success may come with a status. -/
abbrev Reply := Except ServiceError ServiceStatus

/-- A call, with the session or the entry that it was made on. -/
inductive Call
  | connect
  | openEntry (session : Nat) (name : String)
  | create (session : Nat) (spec : ServiceSpec)
  | query (entry : Nat)
  | start (entry : Nat)
  | control (entry : Nat) (signal : ControlSignal)
  | setRecovery (entry : Nat) (action : RecoveryAction)
  | delete (entry : Nat)
  | closeEntry (entry : Nat)
  | closeSession (session : Nat)
  | registerLogSource (name : String)
  | removeLogSource (name : String)
  | terminate (pid : Nat)
  | dispatch (name loop : String)
  /-- A dispatched control loop has ended, with these reports. -/
  | loopEnded (exit : LoopExit) (reports : List (Nat × StatusReport))
  deriving DecidableEq, Repr, Inhabited

structure Machine where
  replies : Kind → List Reply := fun _ => []
  stopTimeout : Nat := 0
  /-- Whether a dispatch runs the control loop, and the signals that it finds. -/
  runsLoop : Bool := true
  signals : List ControlSignal := []
  /-- The latest first. -/
  calls : List (Nat × Call) := []
  /-- The sessions and entries that are held. -/
  sessions : List Nat := []
  entries : List Nat := []
  /-- How many sessions and entries there have been. -/
  issued : Nat := 0
  /-- What the control loop has reported that was dispatched last, the latest first. -/
  reports : List (Nat × StatusReport) := []

instance : Inhabited Machine := ⟨{}⟩

namespace Machine

/-- The status of a success that comes without one. -/
def noStatus : ServiceStatus := ⟨.ofCode 0, 0⟩

/-- Takes the next reply to a kind of call. -/
def takeReply (kind : Kind) (m : Machine) : Reply × Machine :=
  match m.replies kind with
  | [] => (.ok noStatus, m)
  | [reply] => (reply, m)
  | reply :: rest => (reply, { m with replies := fun k => if k = kind then rest else m.replies k })

end Machine

variable {γ : Type}

/-- Keeps a call. -/
def keep (cell : Cell γ Machine) (call : Call) : Act γ Unit := do
  let now ← Act.now
  Act.update cell fun m => { m with calls := (now, call) :: m.calls }

/-- Makes a call. -/
def make (cell : Cell γ Machine) (kind : Kind) (call : Call) : ServiceControl.Call γ ServiceStatus := do
  let reply ← Act.takeFrom cell (Machine.takeReply kind)
  keep cell call
  reply

/-- Makes a call that comes to nothing but a success. -/
def order (cell : Cell γ Machine) (kind : Kind) (call : Call) : ServiceControl.Call γ Unit := do
  let _ ← make cell kind call

/-- Makes a call that gives a session. -/
def newSession (cell : Cell γ Machine) (kind : Kind) (call : Call) : ServiceControl.Call γ Nat := do
  order cell kind call
  Act.takeFrom cell fun m => (m.issued, { m with issued := m.issued + 1, sessions := m.issued :: m.sessions })

/-- Makes a call that gives an entry. -/
def newEntry (cell : Cell γ Machine) (kind : Kind) (call : Call) : ServiceControl.Call γ Nat := do
  order cell kind call
  Act.takeFrom cell fun m => (m.issued, { m with issued := m.issued + 1, entries := m.issued :: m.entries })

/-- Keeps a report of a control loop. -/
def report (cell : Cell γ Machine) (r : StatusReport) : Act γ Unit := do
  let now ← Act.now
  Act.update cell fun m => { m with reports := (now, r) :: m.reports }

/-- Runs the control loop if the script says so, with all signals there and the inbox closed. -/
def dispatch (cell : Cell γ Machine) (name : String) (loop : ControlLoop γ) : Op γ Unit := do
  let reply ← Act.takeFrom cell (Machine.takeReply .dispatch)
  (keep cell (.dispatch name loop.name) : Act γ Unit)
  let m ← Act.read cell
  if m.runsLoop then
    Act.write cell { m with reports := [] }
    let exit ← (loop.run (report cell) (Inbox.ready (← Act.now) m.signals) : Task γ LoopExit)
    (keep cell (.loopEnded exit (← Act.read cell).reports.reverse) : Act γ Unit)
  let _ ← (reply : Except ServiceError ServiceStatus)

def gateway (cell : Cell γ Machine) : Gateway γ Nat Nat where
  connect := newSession cell .connect .connect
  openEntry session name := newEntry cell .openEntry (.openEntry session name)
  create session spec := newEntry cell .create (.create session spec)
  query entry := make cell .query (.query entry)
  start entry := order cell .start (.start entry)
  control entry signal := make cell .control (.control entry signal)
  setRecovery entry action := order cell .setRecovery (.setRecovery entry action)
  delete entry := order cell .delete (.delete entry)
  closeEntry entry := do
    keep cell (.closeEntry entry)
    Act.update cell fun m => { m with entries := m.entries.erase entry }
  closeSession session := do
    keep cell (.closeSession session)
    Act.update cell fun m => { m with sessions := m.sessions.erase session }
  registerLogSource name := order cell .registerLogSource (.registerLogSource name)
  removeLogSource name := order cell .removeLogSource (.removeLogSource name)
  stopTimeout := do return (← Act.read cell).stopTimeout
  dispatch := dispatch cell

/-- Ends processes as the script says. -/
def terminator (cell : Cell γ Machine) (pid : Nat) : ServiceControl.Call γ Unit :=
  order cell .terminate (.terminate pid)

end ServiceControl.Scripted
