import ServiceControl.CommandLine.Arguments
/-!
# The program

What the program does with its command line, decided without doing it: it prints a text, fails with a message, or runs a
service.  Where there is no service manager only `run` is possible.
-/
namespace ServiceControl.CommandLine

def programVersion : String := "0.1.0"

def versionText : String := s!"infinisvc {programVersion}\n"

/-- The usage of a program that is called by this name. -/
def usage (program : String) : String := "\n".intercalate [
  "infinisvc - service lifecycle controller",
  s!"Version: {programVersion}",
  "",
  s!"Usage: {program} <COMMAND> [OPTIONS]",
  "",
  "Commands:",
  "  install      Register the service with the service manager",
  "  uninstall    Stop and remove the service",
  "  start        Start the installed service",
  "  stop         Stop the service, terminating it if it hangs",
  "  restart      Stop then start the service",
  "  status       Print the service state",
  "  run          Run the service (default)",
  "",
  "Options:",
  "  --config <path>          Load the service configuration from a JSON file",
  s!"  --name <name>            Service name (default: {Arguments.defaultName})",
  "  --display-name <name>    Display name shown by the service manager",
  "  --restart-on-failure     Restart the service automatically when it fails",
  "  --debug                  Enable debug logging",
  "  --help, -h               Show this help message",
  "  --version, -v            Show version information",
  "",
  "Environment Variables:",
  "  INFINISVC_CONFIG=<path>  Configuration file",
  "  INFINISVC_NAME=<name>    Service name",
  "  RUST_LOG=<level>         Set log level (error|warn|info|debug)",
  ""]

inductive ProgramError
  | arguments (fault : ArgumentFault)
  | load (error : LoadError)
  /-- A command that only a native service manager can carry out. -/
  | noManager (command : Command)
  deriving Repr, Inhabited

def ProgramError.message : ProgramError → String
  | arguments fault => fault.message
  | load error => error.message
  | noManager command =>
    s!"'{command.word}' needs a native service manager, only 'run' is available on linux"

inductive Outcome
  | prints (text : String)
  | fails (error : ProgramError)
  | runs (config : ServiceConfig) (debug : Bool)

/-- The option that holds the interval of the workload in seconds. -/
def heartbeatKey : String := "HeartbeatSeconds"

def defaultHeartbeatSeconds : Nat := 30

/-- The interval of the workload in milliseconds. -/
def heartbeatInterval (c : ServiceConfig) : Nat :=
  ((NameMap.find? heartbeatKey c.options).bind Json.Value.nat?).getD defaultHeartbeatSeconds * 1000

/-- What the program is to do, which may hang on a file that it has to read first. -/
inductive Plan
  | settled (outcome : Outcome)
  | reads (path : String) (next : Except FileFault String → Outcome)

/-- What comes of a plan where files read like this. -/
def Plan.outcome (read : FileReader) : Plan → Outcome
  | settled outcome => outcome
  | reads path next => next (read path)

/-- What the program does once there is a configuration, or none to be had. -/
def Arguments.goOn (a : Arguments) : Except LoadError ServiceConfig → Outcome
  | .error error => .fails (.load error)
  | .ok config =>
    match a.command.getD .run with
    | .run => .runs config a.debug
    | command => .fails (.noManager command)

/-- A fault of the command line comes before all else, the version before the usage, both before the configuration is
looked at, and the configuration before the command. -/
def plan (env : Environment) (argv : List String) : Plan :=
  match Arguments.parse env argv with
  | .error fault => .settled (.fails (.arguments fault))
  | .ok a =>
    if a.version then .settled (.prints versionText)
    else if a.help then .settled (.prints (usage (argv.headD Arguments.defaultName)))
    else
      match a.configPath with
      | some path => .reads path fun content => a.goOn (a.serviceConfig fun _ => content)
      | none => .settled (a.goOn (a.serviceConfig fun _ => .error .notFound))

/-- What the program does. -/
def outcome (env : Environment) (read : FileReader) (argv : List String) : Outcome := (plan env argv).outcome read

theorem Arguments.serviceConfig_congr {a : Arguments} {read other : FileReader}
    (h : ∀ path ∈ a.configPath, read path = other path) : a.serviceConfig read = a.serviceConfig other := by
  unfold serviceConfig baseConfig
  cases hc : a.configPath with
  | none => rfl
  | some path =>
    have hr : read path = other path := h path hc
    simp [ServiceConfig.load, hr]

/-- **What the program does is decided by its configuration**, where the command line gives it something to configure. -/
theorem outcome_of_parse {env : Environment} {read : FileReader} {argv : List String} {a : Arguments}
    (parsed : Arguments.parse env argv = .ok a) (version : a.version = false) (help : a.help = false) :
    outcome env read argv = a.goOn (a.serviceConfig read) := by
  unfold outcome plan
  rw [parsed]
  simp only [version, help, Bool.false_eq_true, if_false]
  cases hc : a.configPath with
  | some path => exact congrArg a.goOn (Arguments.serviceConfig_congr fun p hp => by rw [Option.mem_unique hp hc])
  | none => exact congrArg a.goOn (Arguments.serviceConfig_congr fun p hp => by rw [hc] at hp; cases hp)

end ServiceControl.CommandLine
