import ServiceControl.Config.Load
/-!
# Command-line arguments

A command line is a row of units: a flag, an option with the word after it, whatever that word is, or one command.
`units` cuts it from left to right and stops at the first word that is none of these; `Arguments.ofUnits` collects what
the units say, a later value taking the place of an earlier one; and the environment fills in what no option gave.
-/
namespace ServiceControl.CommandLine

inductive Command
  | install
  | uninstall
  | start
  | stop
  | restart
  | status
  | run
  deriving DecidableEq, Repr, Inhabited

namespace Command

def word : Command → String
  | install => "install"
  | uninstall => "uninstall"
  | start => "start"
  | stop => "stop"
  | restart => "restart"
  | status => "status"
  | run => "run"

def ofWord? : String → Option Command
  | "install" => some install
  | "uninstall" => some uninstall
  | "start" => some start
  | "stop" => some stop
  | "restart" => some restart
  | "status" => some status
  | "run" => some run
  | _ => none

theorem ofWord?_word (c : Command) : ofWord? c.word = some c := by cases c <;> rfl

end Command

inductive Flag
  | help
  | version
  | debug
  | restartOnFailure
  deriving DecidableEq, Repr, Inhabited

def Flag.ofWord? : String → Option Flag
  | "--help" | "-h" => some .help
  | "--version" | "-v" => some .version
  | "--debug" => some .debug
  | "--restart-on-failure" => some .restartOnFailure
  | _ => none

inductive Valued
  | config
  | name
  | displayName
  deriving DecidableEq, Repr, Inhabited

namespace Valued

def word : Valued → String
  | config => "--config"
  | name => "--name"
  | displayName => "--display-name"

def ofWord? : String → Option Valued
  | "--config" => some config
  | "--name" => some name
  | "--display-name" => some displayName
  | _ => none

/-- What a value of this option is called. -/
def valueWord : Valued → String
  | config => "path"
  | _ => "value"

end Valued

/-- One piece of a command line. -/
inductive ArgumentUnit
  | flag (flag : Flag)
  | valued (option : Valued) (value : String)
  | command (command : Command)
  deriving DecidableEq, Repr, Inhabited

inductive ArgumentFault
  /-- An option stands last, without its value. -/
  | noValue (option : Valued)
  /-- No flag, no option and no command, or a second command. -/
  | unknown (word : String)
  deriving DecidableEq, Repr, Inhabited

def ArgumentFault.message : ArgumentFault → String
  | noValue option => s!"{option.word} requires a {option.valueWord}"
  | unknown word => s!"Unknown argument: {word}. Use --help for usage."

/-- Cuts words into units; `commanded` says whether a command went before. -/
def units (commanded : Bool) : List String → Except ArgumentFault (List ArgumentUnit)
  | [] => .ok []
  | word :: words =>
    match Flag.ofWord? word, Valued.ofWord? word, Command.ofWord? word with
    | some flag, _, _ => (.flag flag :: ·) <$> units commanded words
    | none, some option, _ =>
      match words with
      | [] => .error (.noValue option)
      | value :: words => (.valued option value :: ·) <$> units commanded words
    | none, none, some command =>
      if commanded then .error (.unknown word) else (.command command :: ·) <$> units true words
    | none, none, none => .error (.unknown word)

/-- What the environment says to a command line. -/
structure Environment where
  configPath : Option String := none
  name : Option String := none
  deriving DecidableEq, Repr, Inhabited

structure Arguments where
  command : Option Command := none
  configPath : Option String := none
  name : Option String := none
  displayName : Option String := none
  restartOnFailure : Bool := false
  debug : Bool := false
  help : Bool := false
  version : Bool := false
  deriving DecidableEq, Repr, Inhabited

namespace Arguments

def put (a : Arguments) : ArgumentUnit → Arguments
  | .flag .help => { a with help := true }
  | .flag .version => { a with version := true }
  | .flag .debug => { a with debug := true }
  | .flag .restartOnFailure => { a with restartOnFailure := true }
  | .valued .config path => { a with configPath := some path }
  | .valued .name name => { a with name := some name }
  | .valued .displayName shown => { a with displayName := some shown }
  | .command command => { a with command := some command }

def ofUnits (us : List ArgumentUnit) : Arguments := us.foldl put {}

/-- What no option gave comes from the environment. -/
def complete (a : Arguments) (env : Environment) : Arguments :=
  { a with configPath := a.configPath.or env.configPath, name := a.name.or env.name }

/-- Reads a command line whose first word is the program's own name. -/
def parse (env : Environment) (argv : List String) : Except ArgumentFault Arguments := do
  return (ofUnits (← units false argv.tail)).complete env

/-- What a manager passes to the program to run a service of this name as configured here. -/
def launchArguments (a : Arguments) (name : String) : List String :=
  ["run", "--name", name] ++ (match a.configPath with | some path => ["--config", path] | none => []) ++
    if a.debug then ["--debug"] else []

/-- The name of a service that is not named. -/
def defaultName : String := "infinisvc"

/-- The configuration before anything on the command line is put over it. -/
def baseConfig (a : Arguments) (read : FileReader) : Except LoadError ServiceConfig :=
  match a.configPath with
  | some path => ServiceConfig.load read path
  | none => .ok { name := a.name.getD defaultName }

/-- What the command line says goes over what the file says; without arguments of its own the service gets those that
launch it again. -/
def serviceConfig (a : Arguments) (read : FileReader) : Except LoadError ServiceConfig := do
  let base ← a.baseConfig read
  let name := a.name.getD base.name
  return { base with
    name
    displayName := a.displayName.or base.displayName
    restartOnFailure := a.restartOnFailure || base.restartOnFailure
    arguments := if base.arguments.isEmpty then a.launchArguments name else base.arguments }

end Arguments

end ServiceControl.CommandLine
