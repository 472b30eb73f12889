import ServiceControl.CommandLine.Session
import Std.Async.Signal
/-!
# The command line

Looks up the arguments, the environment and, where `CommandLine.plan` says so, the configuration file, and carries out
what comes of it in real time: a session that waits is looked at again and again.
-/
namespace ServiceControl.CommandLine

open Std.Async (Signal AsyncTask)

/-- Reads the file at a path. -/
def readFile (path : String) : IO (Except FileFault String) := do
  if path.contains '\x00' then return .error .invalidInput
  try
    return (FileContent.bytes (← IO.FS.readBinFile path)).text?
  catch e =>
    return .error <| match e with
      | .noFileOrDirectory .. => .notFound
      | .inappropriateType .. => .isADirectory
      | _ => .notADirectory

/-- Begins to wait for the signals that end a session. -/
def listen : IO (List (Termination × AsyncTask Int)) :=
  [(Termination.terminate, Signal.sigterm), (.interrupt, .sigint)].mapM fun (termination, signal) => do
    return (termination, ← (← Signal.Waiter.mk signal false).wait)

/-- The signals that have come. -/
def received (waiting : List (Termination × AsyncTask Int)) : IO (List Termination) :=
  waiting.filterMapM fun (termination, task) => do
    return if ← IO.hasFinished task then some termination else none

/-- Writes the journal of a scene out. -/
def tell (levels : Nat) (s : Scene Session) : IO Unit := (shown levels s.journal).forM IO.eprintln

/-- Looks at the program until it has ended. -/
partial def attend {α : Type} (levels begun : Nat) (waiting : List (Termination × AsyncTask Int)) : Step Session α → IO α
  | .done a s => do
    tell levels s
    return a
  | .wait w s resume => do
    tell levels s
    IO.sleep 10
    let signals ← received waiting
    attend levels begun waiting (look ((← IO.monoMsNow) - begun) signals (.wait w { s with journal := [] } resume))

/-- Carries an outcome out to its end.  Only a run looks at the signals and at the running executable. -/
def bringAbout : Outcome → IO Ending
  | .runs config debug => do
    let levels := shownLevels debug (← IO.getEnv "RUST_LOG")
    let (waiting, fault) ← try pure (← listen, none) catch e => pure ([], some (toString e))
    let binary : RunningBinary ← try pure (.ok (← IO.appPath).toString) catch e => pure (.error (toString e))
    attend levels (← IO.monoMsNow) waiting ((Outcome.runs config debug).carryOut fault binary)
  | outcome => attend 0 0 [] (outcome.carryOut none (.error ""))

end ServiceControl.CommandLine

open ServiceControl.CommandLine in
/-- The program. -/
def main (words : List String) : IO UInt32 := do
  let env : Environment := ⟨← IO.getEnv "INFINISVC_CONFIG", ← IO.getEnv "INFINISVC_NAME"⟩
  let outcome ← match plan env (Arguments.defaultName :: words) with
    | .settled outcome => pure outcome
    | .reads path next => next <$> readFile path
  let ending ← bringAbout outcome
  IO.print ending.printed
  if let some message := ending.complaint then IO.eprintln s!"Error: {message}"
  return ending.code
