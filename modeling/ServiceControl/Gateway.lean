import ServiceControl.ControlLoop
import ServiceControl.Spec
/-!
# Gateways

What a service manager can be asked, over a world `γ` with sessions `S` and entries `E`.  Sessions and entries are held
for a while and given back (`holding`).
-/
namespace ServiceControl

structure Gateway (γ S E : Type) where
  connect : Call γ S
  openEntry : S → String → Call γ E
  create : S → ServiceSpec → Call γ E
  query : E → Call γ ServiceStatus
  start : E → Call γ Unit
  control : E → ControlSignal → Call γ ServiceStatus
  setRecovery : E → RecoveryAction → Call γ Unit
  delete : E → Call γ Unit
  closeEntry : E → Act γ Unit
  closeSession : S → Act γ Unit
  registerLogSource : String → Call γ Unit
  removeLogSource : String → Call γ Unit
  /-- How long a service is granted to stop. -/
  stopTimeout : Act γ Nat
  /-- Hands a control loop over and waits until it has ended. -/
  dispatch : String → ControlLoop γ → Op γ Unit

namespace Gateway

variable {γ S E α : Type}

/-- A view of a service through the gateway.  A status that cannot be told is described. -/
def status (g : Gateway γ S E) (config : ServiceConfig) : Act γ String := do
  match ← g.connect.run with
  | .error e => return s!"Unknown: {e.message}"
  | .ok session =>
    let found ← (holding (g.openEntry session config.name) g.closeEntry g.query).run
    let text ← match found with
      | .ok status => pure status.state.label
      | .error e => do
        Act.debug s!"Status lookup of {config.name} failed: {e.message}"
        pure e.message
    g.closeSession session
    return text

def view (g : Gateway γ S E) (config : ServiceConfig) : View γ := ⟨config, g.status config⟩

end Gateway

end ServiceControl
