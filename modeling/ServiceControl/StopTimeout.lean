import ServiceControl.Scene
import ServiceControl.Text.Blank
import ServiceControl.Text.Natural
/-!
# The stop timeout

How long a manager grants a service to stop, in milliseconds.  A setting is a text; one that is missing or is no number
gives the default.
-/
namespace ServiceControl.StopTimeout

/-- Twenty seconds. -/
def default : Nat := 20000

/-- The number in a setting, with blanks around it or not. -/
def read (setting : String) : Except Text.NatFault Nat := Text.readNat Text.largestWord64 (Text.trim setting.toList)

/-- The timeout that a setting gives. -/
def ofSetting : Option String → Nat
  | none => default
  | some setting =>
    match read setting with
    | .ok ms => ms
    | .error _ => default

/-- Tells a setting that is no number. -/
def take {γ : Type} (setting : Option String) : Act γ Nat := do
  match setting.map read with
  | some (.error fault) => Act.debug s!"Invalid stop timeout setting ({fault.message}), using default"
  | _ => pure ()
  return ofSetting setting

/-- **The timeout does not depend on anything but the setting.** -/
theorem take_fst {γ : Type} (setting : Option String) (s : Scene γ) : ((take setting).run s).1 = ofSetting setting := by
  cases setting with
  | none => rfl
  | some raw =>
    cases h : read raw <;> simp [take, h] <;> rfl

end ServiceControl.StopTimeout
