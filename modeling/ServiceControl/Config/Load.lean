import ServiceControl.Config.Record
import ServiceControl.Files
import ServiceControl.Text.Blank
/-!
# Loading a configuration

A configuration is loaded from a file that holds its JSON.  Main statement: a configuration that loads has a name that is
not blank (`load_name`).
-/
namespace ServiceControl

/-- Why a file gives no configuration. -/
inductive LoadFault
  | unreadable (fault : FileFault)
  | unparsable (fault : Json.Fault)
  | emptyName
  deriving Repr, Inhabited

structure LoadError where
  path : String
  fault : LoadFault
  deriving Repr, Inhabited

def LoadError.message (e : LoadError) : String :=
  match e.fault with
  | .unreadable _ => s!"Failed to read service configuration {Text.quoted e.path}"
  | .unparsable _ => s!"Failed to parse service configuration {Text.quoted e.path}"
  | .emptyName => s!"Service configuration {Text.quoted e.path} has an empty name"

namespace ServiceConfig

def ofText (text : String) : Except LoadFault ServiceConfig :=
  match parse text with
  | .error fault => .error (.unparsable fault)
  | .ok c => if Text.isAllBlank c.name.toList then .error .emptyName else .ok c

def load (read : FileReader) (path : String) : Except LoadError ServiceConfig :=
  match read path with
  | .error fault => .error ⟨path, .unreadable fault⟩
  | .ok text => (ofText text).mapError (⟨path, ·⟩)

/-- **What loads has a name.** -/
theorem load_name {read : FileReader} {path : String} {c : ServiceConfig} (h : load read path = .ok c) :
    Text.trim c.name.toList ≠ [] := by
  unfold load at h
  split at h
  · cases h
  · unfold ofText at h
    split at h
    · cases h
    · split at h
      · cases h
      · rename_i blank
        cases h
        exact fun trimmed => blank (Text.trim_eq_nil_iff.1 trimmed)

end ServiceConfig

end ServiceControl
