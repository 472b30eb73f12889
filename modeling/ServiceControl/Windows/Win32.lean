import ServiceControl.Scene
import ServiceControl.Text.Utf16
/-!
# The Win32 functions of service management

The calls that a service program makes of Windows, with their arguments, and a Windows whose replies are written down
beforehand: one list for each function, of which the last reply is repeated.  Every call is kept.  Handles are numbered
from one as they are issued, and a handle lives until it is closed.
-/
namespace ServiceControl.Windows

abbrev Handle := Nat

/-! ## Numbers that Windows gives a meaning -/

namespace Code

def accessDenied : Nat := 5
def serviceDoesNotExist : Nat := 1060
def serviceExists : Nat := 1073
def invalidServiceControl : Nat := 1052
def cannotAcceptControl : Nat := 1061
/-- What a program reports whose exit code is one of its own. -/
def serviceSpecificError : Nat := 1066

def managerAccess : Nat := 0x1 + 0x2
def queryStatusAccess : Nat := 0x4
def startAccess : Nat := 0x10
def stopAccess : Nat := 0x20
def pauseAccess : Nat := 0x40
def changeConfigAccess : Nat := 0x2
def deleteAccess : Nat := 0x10000

def openAccess : Nat :=
  queryStatusAccess + startAccess + stopAccess + pauseAccess + changeConfigAccess + deleteAccess

def createAccess : Nat := queryStatusAccess + startAccess + stopAccess + changeConfigAccess + deleteAccess

def ownProcess : Nat := 0x10
def autoStart : Nat := 2
def onDemand : Nat := 3
def normalErrorControl : Nat := 1

def stopControl : Nat := 1
def pauseControl : Nat := 2
def continueControl : Nat := 3
def interrogateControl : Nat := 4
def shutdownControl : Nat := 5
def preshutdownControl : Nat := 15

def noAction : Nat := 0
def restartAction : Nat := 1

def acceptStop : Nat := 0x1
def acceptShutdown : Nat := 0x4

def handled : Nat := 0
def notImplemented : Nat := 120

def localMachine : Nat := 0x80000002
def keyRead : Nat := 0x20019
def keyReadWrite : Nat := 0x2001F
def stringKind : Nat := 1
def expandStringKind : Nat := 2
def wordKind : Nat := 4

end Code

/-! ## Calls and replies -/

inductive Function
  | openManager
  | openService
  | createService
  | closeServiceHandle
  | deleteService
  | startService
  | controlService
  | queryStatus
  | changeConfig
  | createKey
  | openKey
  | setValue
  | queryValue
  | deleteKey
  | closeKey
  | startDispatcher
  | registerHandler
  | setStatus
  deriving DecidableEq, Repr, Inhabited

/-- The parts of a new service that are passed on as they are. -/
structure NewService where
  name : String
  displayName : String
  startType : Nat
  commandLine : String
  account : Option String
  password : Option String
  deriving DecidableEq, Repr, Inhabited

inductive RegistryData
  | expandString (text : String)
  | word (value : Nat)
  deriving DecidableEq, Repr, Inhabited

structure StatusRecord where
  state : Nat
  accepts : Nat
  win32Exit : Nat
  serviceExit : Nat
  deriving DecidableEq, Repr, Inhabited

inductive Call
  | openManager (access : Nat)
  | openService (manager : Handle) (name : String) (access : Nat)
  | createService (manager : Handle) (service : NewService) (access : Nat)
  | closeServiceHandle (handle : Handle)
  | deleteService (service : Handle)
  | startService (service : Handle)
  | controlService (service : Handle) (control : Nat)
  | queryStatus (service : Handle)
  | setDescription (service : Handle) (text : String)
  | setFailureActions (service : Handle) (actions : List (Nat × Nat))
  | createKey (path : String) (access : Nat)
  | openKey (path : String) (access : Nat)
  | setValue (key : Handle) (name : String) (data : RegistryData)
  | queryValue (key : Handle) (name : String) (bufferSize : Nat)
  | deleteKey (path : String)
  | closeKey (key : Handle)
  | startDispatcher (name : String)
  | registerHandler (name : String)
  | setStatus (record : StatusRecord)
  /-- Windows has called the control handler, which has answered. -/
  | handler (control answer : Nat)
  deriving DecidableEq, Repr, Inhabited

inductive Reply
  | fails (code : Nat)
  | succeeds
  /-- The key was there before. -/
  | existing
  | status (state pid : Nat)
  /-- A value of this kind, its size in bytes, and the units that the buffer holds after the call. -/
  | value (kind size : Nat) (units : List Nat)
  deriving DecidableEq, Repr, Inhabited

/-! ## The machine -/

structure Machine where
  replies : Function → List Reply := fun _ => []
  /-- The controls that Windows sends to a service once it has reported that it runs. -/
  controls : List Nat := []
  /-- How often the dispatcher calls the entry point; once unless it fails. -/
  mainCalls : Option Nat := none
  /-- The latest first. -/
  calls : List Call := []
  issued : Nat := 0
  live : List Handle := []
  /-- A handler was registered and has got no control yet. -/
  armed : Bool := false
  /-- How often a control loop was handed to the dispatcher, and which of them waits for the entry point. -/
  dispatches : Nat := 0
  pending : Option Nat := none
  /-- The control loops that were taken to be run, the latest first. -/
  served : List Nat := []

instance : Inhabited Machine := ⟨{}⟩

namespace Machine

def takeReply (f : Function) (m : Machine) : Reply × Machine :=
  match m.replies f with
  | [] => (.succeeds, m)
  | [reply] => (reply, m)
  | reply :: rest => (reply, { m with replies := fun g => if g = f then rest else m.replies g })

/-- Keeps a call and takes its reply. -/
def call (f : Function) (c : Call) (m : Machine) : Reply × Machine :=
  { m with calls := c :: m.calls }.takeReply f

def issue (m : Machine) : Handle × Machine :=
  (m.issued + 1, { m with issued := m.issued + 1, live := (m.issued + 1) :: m.live })

def release (h : Handle) (m : Machine) : Machine := { m with live := m.live.erase h }

end Machine

/-! ## Faults -/

inductive Fault
  /-- The system refused with this code. -/
  | system (code : Nat)
  /-- A text that must be NUL-terminated holds a NUL. -/
  | nul (what : String)
  | nulArgument (index : Nat)
  | unknownState
  deriving DecidableEq, Repr, Inhabited

namespace Fault

def message : Fault → String
  | system _ => "IO error in winapi call"
  | nul what => s!"{what} contains a nul byte"
  | nulArgument index => s!"launch argument contains a nul byte in element at {index} index"
  | unknownState => "invalid service status value"

def code? : Fault → Option Nat
  | system code => some code
  | _ => none

/-- The failure of an operation as an error of the manager. -/
def during (operation : String) (f : Fault) : ServiceError := .manager s!"{operation} failed: {f.message}"

end Fault

/-- How a system error is told by itself. -/
def systemText (code : Nat) : String := s!"<os error {code}>"

/-- What may fail for a reason that Windows gives, or for one that keeps it from being asked. -/
abbrev Sys (γ : Type) := ExceptT Fault (Act γ)

variable {γ α : Type}

def invoke (cell : Cell γ Machine) (f : Function) (c : Call) : Act γ Reply := Act.takeFrom cell (Machine.call f c)

def request (cell : Cell γ Machine) (f : Function) (c : Call) : Sys γ Reply := do
  match ← (invoke cell f c : Act γ Reply) with
  | .fails code => throw (.system code)
  | reply => return reply

def acquire (cell : Cell γ Machine) (f : Function) (c : Call) : Sys γ (Handle × Reply) := do
  let reply ← request cell f c
  let handle ← Act.takeFrom cell Machine.issue
  return (handle, reply)

/-- Closes a handle, whatever Windows replies. -/
def close (cell : Cell γ Machine) (f : Function) (c : Handle → Call) (handle : Handle) : Act γ Unit := do
  let _ ← invoke cell f (c handle)
  Act.update cell (Machine.release handle)

/-- A text for Windows: it may end in a NUL of its own and holds no other. -/
def terminated (what : Fault) (s : String) : Except Fault String :=
  match Text.terminated? s.toList with
  | some cs => .ok (String.ofList cs)
  | none => .error what

/-- What Windows reads of a text that is passed without a check. -/
def upToNul (s : String) : String := String.ofList (Text.upToNul s.toList)

/-- What comes of a request, as an error of the service where it fails. -/
def explained (explain : Fault → ServiceError) (s : Sys γ α) : ServiceControl.Call γ α := ExceptT.adapt explain s

end ServiceControl.Windows
