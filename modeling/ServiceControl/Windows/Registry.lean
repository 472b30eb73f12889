import ServiceControl.StopTimeout
import ServiceControl.Windows.Win32
/-!
# The registry

The stop timeout and the log sources of services lie in the registry.  A key that is opened is closed again however its
use ends.  A value is read into a buffer, and of that only what lies in it (`slice`).
-/
namespace ServiceControl.Windows

variable {γ : Type}

/-- Under this key each log source has a key of its own. -/
def logSourcePath (name : String) : String :=
  "SYSTEM\\CurrentControlSet\\Services\\EventLog\\Application\\" ++ name

def controlPath : String := "SYSTEM\\CurrentControlSet\\Control"

def stopTimeoutValue : String := "WaitToKillServiceTimeout"

/-- The file with the texts of events. -/
def messageFile : String := "%SystemRoot%\\System32\\EventCreate.exe"

/-- Errors, warnings and information. -/
def supportedEvents : Nat := 0x1 + 0x2 + 0x4

def closeKey (cell : Cell γ Machine) : Handle → Act γ Unit := close cell .closeKey .closeKey

/-! ## Log sources -/

def createKey (cell : Cell γ Machine) (path : String) : ServiceControl.Call γ (Handle × Bool) := do
  match ← (acquire cell .createKey (.createKey (upToNul path) Code.keyReadWrite)).run with
  | .ok (key, reply) => return (key, reply = .existing)
  | .error (.system code) => throw (.manager s!"failed to create registry key {path}: {systemText code}")
  | .error f => throw (f.during "create registry key")

def setValue (cell : Cell γ Machine) (key : Handle) (name : String) (data : RegistryData) :
    ServiceControl.Call γ Unit := do
  match ← (invoke cell .setValue (.setValue key name data) : Act γ Reply) with
  | .fails code => throw (.manager s!"failed to set registry value {name}: {systemText code}")
  | _ => return

def registerLogSource (cell : Cell γ Machine) (name : String) : ServiceControl.Call γ Unit := do
  holding (createKey cell (logSourcePath name)) (fun (key, _) => closeKey cell key) fun (key, existed) => do
    if existed then throw (.manager s!"{logSourcePath name} registry key already exists")
    setValue cell key "EventMessageFile" (.expandString messageFile)
    setValue cell key "TypesSupported" (.word supportedEvents)
    setValue cell key "CustomSource" (.word 1)
  Act.debug s!"Registered event log source {name}"

def removeLogSource (cell : Cell γ Machine) (name : String) : ServiceControl.Call γ Unit := do
  match ← (invoke cell .deleteKey (.deleteKey (upToNul (logSourcePath name))) : Act γ Reply) with
  | .fails code => throw (.manager s!"failed to delete event log source {name}: {systemText code}")
  | _ => Act.debug s!"Removed event log source {name}"

/-! ## The stop timeout -/

/-- The units that a value may have. -/
def bufferUnits : Nat := 256

/-- What lies in the buffer after a value was read into it. -/
def buffer (units : List Nat) : List Nat := (units ++ List.replicate bufferUnits 0).take bufferUnits

/-- Reads the first units of a row, one by one: there must be so many. -/
def slice (row : List Nat) (n : Nat) (inRange : n ≤ row.length) : List Nat :=
  List.ofFn fun i : Fin n => row.get ⟨i, Nat.lt_of_lt_of_le i.isLt inRange⟩

theorem slice_eq_take {row : List Nat} {n : Nat} (inRange : n ≤ row.length) : slice row n inRange = row.take n := by
  refine List.ext_getElem ?_ fun i _ _ => ?_
  · rw [slice, List.length_ofFn, List.length_take, Nat.min_eq_left inRange]
  · simp [slice]

/-- The units that are read: as many as the size tells, and no more than there are in the buffer. -/
def unitsRead (size : Nat) (units : List Nat) : List Nat :=
  slice (buffer units) (min (size / 2) (buffer units).length) (Nat.min_le_right _ _)

/-- The text in the buffer, without the NULs at the end. -/
def bufferText (size : Nat) (units : List Nat) : String :=
  String.ofList ((Text.decodeUtf16 (unitsRead size units)).reverse.dropWhile (· = '\x00')).reverse

def textValue (cell : Cell γ Machine) (key : Handle) (name : String) : Act γ (Option String) := do
  match ← invoke cell .queryValue (.queryValue key name (2 * bufferUnits)) with
  | .value kind size units => return if kind = Code.stringKind then some (bufferText size units) else none
  | _ => return none

def stopTimeoutSetting (cell : Cell γ Machine) : Act γ (Option String) := do
  match ← (acquire cell .openKey (.openKey controlPath Code.keyRead)).run with
  | .error _ => return none
  | .ok (key, _) =>
    let setting ← textValue cell key stopTimeoutValue
    closeKey cell key
    return setting

def stopTimeout (cell : Cell γ Machine) : Act γ Nat := do StopTimeout.take (← stopTimeoutSetting cell)

end ServiceControl.Windows
