/-!
# Control signals

What a service manager may ask of a service.
-/
namespace ServiceControl

inductive ControlSignal
  | stop
  | shutdown
  | interrogate
  | pause
  | continue
  | preshutdown
  | other
  deriving DecidableEq, Repr, Inhabited

namespace ControlSignal

def name : ControlSignal → String
  | stop => "Stop"
  | shutdown => "Shutdown"
  | interrogate => "Interrogate"
  | pause => "Pause"
  | «continue» => "Continue"
  | preshutdown => "Preshutdown"
  | other => "Other"

/-- The signal of a name; any unknown name is that of some other signal. -/
def ofName : String → ControlSignal
  | "Stop" => stop
  | "Shutdown" => shutdown
  | "Interrogate" => interrogate
  | "Pause" => pause
  | "Continue" => «continue»
  | "Preshutdown" => preshutdown
  | _ => other

theorem ofName_name (s : ControlSignal) : ofName s.name = s := by cases s <;> rfl

end ControlSignal

end ServiceControl
