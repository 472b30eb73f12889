import ServiceControl.Scene
/-!
# Processes

The processes of a system, by their ids, and how one is ended by force.
-/
namespace ServiceControl

structure Process where
  name : String
  /-- The system does not let this one be ended. -/
  shielded : Bool := false
  deriving DecidableEq, Repr, Inhabited

abbrev ProcessTable := List (Nat × Process)

namespace ProcessTable

/-- Ends a process.  No process has the id zero. -/
def terminate {γ : Type} (table : Cell γ ProcessTable) (pid : Nat) : Call γ Unit := do
  if pid = 0 then throw (.processNotFound pid)
  match (← Act.read table).lookup pid with
  | none => throw (.processNotFound pid)
  | some process =>
    if process.shielded then
      Act.warn s!"Failed to terminate process {pid} ({process.name})"
      throw (.manager s!"failed to terminate process {pid} ({process.name})")
    Act.update table fun ps => ps.filter fun p => p.1 ≠ pid
    Act.info s!"Force terminated process {pid} ({process.name})"

end ProcessTable

end ServiceControl
