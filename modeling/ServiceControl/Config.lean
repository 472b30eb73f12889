import ServiceControl.Json.Value
import ServiceControl.Shutdown
/-!
# Service configurations

What is said about a service before it is registered or run.  A setting writes one part of a configuration, and a later
one takes the place of an earlier one (`applyAll_append`).
-/
namespace ServiceControl

open Json (Value)

structure ServiceConfig where
  /-- The name by which managers know the service. -/
  name : String
  /-- The name that people see; the name stands in for an absent or empty one. -/
  displayName : Option String := none
  description : String := ""
  /-- The account that the service runs under. -/
  userName : Option String := none
  /-- What a manager passes to the executable. -/
  arguments : List String := []
  /-- The executable to register; the running one if absent. -/
  executable : Option String := none
  /-- Free entries, no key twice. -/
  options : NameMap Value := []
  restartOnFailure : Bool := false
  /-- What ends an interactive run. -/
  context : Shutdown.Context := .never
  deriving BEq, Repr, Inhabited

namespace ServiceConfig

/-- The option that holds the password of the account. -/
def passwordKey : String := "Password"

/-- The display name, or the name where there is none. -/
def display (c : ServiceConfig) : String :=
  match c.displayName with
  | some shown => if shown.isEmpty then c.name else shown
  | none => c.name

/-- The password among the options, if it is a string. -/
def password? (c : ServiceConfig) : Option String := (NameMap.find? passwordKey c.options).bind Value.string?

def putOption (key : String) (value : Value) (c : ServiceConfig) : ServiceConfig :=
  { c with options := NameMap.put key value c.options }

inductive Setting
  | displayName (shown : String)
  | description (text : String)
  /-- An account, and its password unless that stays as it is. -/
  | user (name : String) (password : Option String)
  | arguments (items : List String)
  | executable (path : String)
  | restartOnFailure (enabled : Bool)
  | context (context : Shutdown.Context)
  | option (key : String) (value : Value)

def apply (c : ServiceConfig) : Setting → ServiceConfig
  | .displayName shown => { c with displayName := some shown }
  | .description text => { c with description := text }
  | .user name none => { c with userName := some name }
  | .user name (some password) => { c with userName := some name }.putOption passwordKey (.string password)
  | .arguments items => { c with arguments := items }
  | .executable path => { c with executable := some path }
  | .restartOnFailure enabled => { c with restartOnFailure := enabled }
  | .context context => { c with context := context }
  | .option key value => c.putOption key value

def applyAll (c : ServiceConfig) (settings : List Setting) : ServiceConfig := settings.foldl apply c

theorem applyAll_append (c : ServiceConfig) (xs ys : List Setting) :
    c.applyAll (xs ++ ys) = (c.applyAll xs).applyAll ys := List.foldl_append

/-- **No setting changes the name.** -/
theorem apply_name (c : ServiceConfig) (s : Setting) : (c.apply s).name = c.name := by
  cases s with
  | user name password => cases password <;> rfl
  | _ => rfl

end ServiceConfig

end ServiceControl
