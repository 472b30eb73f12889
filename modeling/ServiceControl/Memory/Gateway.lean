import ServiceControl.Gateway
import ServiceControl.Memory.Machine
/-!
# The memory manager as a gateway

The machine at a place in the world, asked at the time of the world's clock.  An entry is known by its name.
-/
namespace ServiceControl.Memory

variable {γ α : Type}

/-- Does something with the machine. -/
def onMachine (cell : Cell γ Machine) (f : StateM Machine α) : Act γ α := Act.takeFrom cell f.run

/-- Asks the machine. -/
def asking (cell : Cell γ Machine) (ask : Ask α) : Call γ α := ExceptT.mk (onMachine cell ask.run)

/-- Asks the machine with the time. -/
def askingNow (cell : Cell γ Machine) (ask : Nat → Ask α) : Call γ α := do asking cell (ask (← Act.now))

/-- Runs a control loop with the signals that are there for it, and keeps its reports. -/
def dispatch (cell : Cell γ Machine) (name : String) (loop : ControlLoop γ) : Op γ Unit := do
  let script ← asking cell takeScript
  Act.debug s!"Dispatching {name} with {script.length} scripted signals"
  let now ← Act.now
  let _ ← (loop.run (fun report => onMachine cell (keepReport report)) (Inbox.ready now script) : Task γ LoopExit)
  asking cell takeFault

def gateway (cell : Cell γ Machine) : Gateway γ Unit String where
  connect := asking cell connect
  openEntry _ name := asking cell (openEntry name)
  create _ spec := asking cell (create spec)
  query entry := askingNow cell fun now => query now entry
  start entry := askingNow cell fun now => start now entry
  control entry signal := askingNow cell fun now => control now entry signal
  setRecovery entry action := askingNow cell fun now => setRecovery now entry action
  delete entry := asking cell (delete entry)
  closeEntry _ := onMachine cell closeEntry
  closeSession _ := onMachine cell closeSession
  registerLogSource name := asking cell (registerLogSource name)
  removeLogSource name := asking cell (removeLogSource name)
  stopTimeout := do return (← Act.read cell).stopTimeout
  dispatch := dispatch cell

/-- Ends simulated processes. -/
def terminator (cell : Cell γ Machine) (pid : Nat) : Call γ Unit := asking cell (terminate pid)

end ServiceControl.Memory
