import ServiceControl.Scene
import ServiceControl.Spec
/-!
# The platform

What is known of the system that the program runs on: one without a service manager, on which every run is interactive.
-/
namespace ServiceControl.Platform

def system : String := "linux"

/-- The name of what runs services here. -/
def name : String := "interactive"

/-- Whether a user started the program. -/
def detectInteractive {γ : Type} : Call γ Bool := do
  Act.debug s!"No service manager backend on {system}, running interactively"
  return true

/-- The system's words for some of its errors. -/
def errorText : Nat → String
  | 1 => "Operation not permitted"
  | 2 => "No such file or directory"
  | 5 => "Input/output error"
  | 12 => "Cannot allocate memory"
  | 13 => "Permission denied"
  | 20 => "Not a directory"
  | 22 => "Invalid argument"
  | 36 => "File name too long"
  | 40 => "Too many levels of symbolic links"
  | _ => "Unknown error"

/-- Why the path of the running executable is not known, when looking it up fails with a system error. -/
def binaryFault (code : Nat) : String :=
  if code = 2 then "no /proc/self/exe available. Is /proc mounted?" else s!"{errorText code} (os error {code})"

end ServiceControl.Platform
