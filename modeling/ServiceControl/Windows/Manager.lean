import ServiceControl.Gateway
import ServiceControl.Windows.Quoting
import ServiceControl.Windows.Win32
/-!
# The Service Control Manager

Sessions and entries of the Service Control Manager are handles.  Texts are checked before anything is asked, in a fixed
order, and system errors that say something of the service become errors of their own.
-/
namespace ServiceControl.Windows

variable {γ : Type}

def connect (cell : Cell γ Machine) : ServiceControl.Call γ Handle :=
  explained explain do return (← acquire cell .openManager (.openManager Code.managerAccess)).1
where
  explain (f : Fault) : ServiceError :=
    if f.code? = some Code.accessDenied then .permissionDenied else f.during "connect to service manager"

def closeHandle (cell : Cell γ Machine) : Handle → Act γ Unit := close cell .closeServiceHandle .closeServiceHandle

def openService (cell : Cell γ Machine) (manager : Handle) (name : String) : ServiceControl.Call γ Handle :=
  explained explain do
    let checked ← (terminated (.nul "service name") name : Except Fault String)
    return (← acquire cell .openService (.openService manager checked Code.openAccess)).1
where
  explain (f : Fault) : ServiceError :=
    if f.code? = some Code.serviceDoesNotExist then .notInstalled name else f.during "open service"

/-! ## New services -/

/-- A word of a command line, which may not hold a NUL once it is quoted. -/
def commandWord (what : Fault) (word : String) : Except Fault String :=
  terminated what (String.ofList (quoteWord word.toList))

/-- The words after the first, each with its number. -/
def argumentWords : Nat → List String → Except Fault (List String)
  | _, [] => .ok []
  | i, word :: words => do
    let checked ← commandWord (.nulArgument i) word
    return checked :: (← argumentWords (i + 1) words)

def checkOptional (what : Fault) : Option String → Except Fault (Option String)
  | none => .ok none
  | some s => some <$> terminated what s

/-- Checks the texts of an entry and joins the command line. -/
def newService (spec : ServiceSpec) : Except Fault NewService := do
  let name ← terminated (.nul "service name") spec.name
  let displayName ← terminated (.nul "display name") spec.displayName
  let account ← checkOptional (.nul "account name") spec.account
  let password ← checkOptional (.nul "account password") spec.password
  let executable ← commandWord (.nul "executable path") spec.executable
  let arguments ← argumentWords 0 spec.arguments
  return {
    name
    displayName
    startType := match spec.startType with | .automatic => Code.autoStart | .manual => Code.onDemand
    commandLine := " ".intercalate (executable :: arguments)
    account
    password }

/-- Describes a new service; a failure is told and no more. -/
def describe (cell : Cell γ Machine) (service : Handle) (spec : ServiceSpec) : Act γ Unit := do
  let described : Sys γ Reply := do
    let text ← (terminated (.nul "service description") spec.description : Except Fault String)
    request cell .changeConfig (.setDescription service text)
  if let .error f ← described.run then
    Act.warn s!"Failed to set description of {spec.name}: {f.message}"

def createService (cell : Cell γ Machine) (manager : Handle) (spec : ServiceSpec) :
    ServiceControl.Call γ Handle := do
  let service ← explained explain do
    let new ← (newService spec : Except Fault NewService)
    return (← acquire cell .createService (.createService manager new Code.createAccess)).1
  if !spec.description.isEmpty then (describe cell service spec : Act γ Unit)
  return service
where
  explain (f : Fault) : ServiceError :=
    if f.code? = some Code.serviceExists then .alreadyExists spec.name else f.during "create service"

/-! ## Entries -/

/-- The status behind the numbers of Windows, which tells the process of a running service only. -/
def readStatus (state pid : Nat) : Except Fault ServiceStatus :=
  if 1 ≤ state ∧ state ≤ 7 then .ok ⟨.ofCode state, if state = 4 then pid else 0⟩ else .error .unknownState

def queryStatus (cell : Cell γ Machine) (service : Handle) : Sys γ ServiceStatus := do
  match ← request cell .queryStatus (.queryStatus service) with
  | .status state pid => readStatus state pid
  | _ => readStatus 1 0

/-- A control tells the state, but no process. -/
def sendControl (cell : Cell γ Machine) (service : Handle) (control : Nat) : Sys γ ServiceStatus := do
  match ← request cell .controlService (.controlService service control) with
  | .status state _ => readStatus state 0
  | _ => readStatus 1 0

def query (cell : Cell γ Machine) (service : Handle) : ServiceControl.Call γ ServiceStatus :=
  explained (·.during "query service status") (queryStatus cell service)

def start (cell : Cell γ Machine) (service : Handle) : ServiceControl.Call γ Unit :=
  explained (·.during "start service") do
    let _ ← request cell .startService (.startService service)

/-- Sends a signal, of the four that can be sent. -/
def control (cell : Cell γ Machine) (service : Handle) (signal : ControlSignal) :
    ServiceControl.Call γ ServiceStatus :=
  match signal with
  | .stop => explained explain (sendControl cell service Code.stopControl)
  | .pause => explained explain (sendControl cell service Code.pauseControl)
  | .continue => explained explain (sendControl cell service Code.continueControl)
  | .interrogate => explained explain (queryStatus cell service)
  | signal => throw (.controlRejected s!"{signal.name} cannot be sent through the service manager")
where
  explain (f : Fault) : ServiceError :=
    if f.code? = some Code.invalidServiceControl || f.code? = some Code.cannotAcceptControl then
      .controlRejected f.message
    else f.during "control service"

def failureAction : RecoveryAction → Nat × Nat
  | .none => (Code.noAction, 0)
  | .restart delay => (Code.restartAction, delay)

def setRecovery (cell : Cell γ Machine) (service : Handle) (action : RecoveryAction) :
    ServiceControl.Call γ Unit :=
  explained (·.during "set recovery actions") do
    let _ ← request cell .changeConfig (.setFailureActions service [failureAction action])

def delete (cell : Cell γ Machine) (service : Handle) : ServiceControl.Call γ Unit :=
  explained (·.during "delete service") do
    let _ ← request cell .deleteService (.deleteService service)

end ServiceControl.Windows
