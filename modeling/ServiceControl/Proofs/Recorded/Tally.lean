import ServiceControl.Proofs.Recorded.Conduct
/-!
# Calls of one kind

An order with what it comes to and what it adds to the log, and the calls of one kind among them, one after another, each
with what it was made on and what was replied.
-/
namespace ServiceControl.Recorded

/-! ## What an order leaves in the log -/

/-- **An order comes to its end**, with this result and this addition to the log. -/
structure Comes {γ S E : Type} [Background γ] (c : Controller γ S E) (log : Cell γ (List (Note S E)))
    (order : Scenario.Order) (s : Scene γ) (r : Except ServiceError Unit) (notes : List (Note S E)) : Prop where
  result : ((execute c order).run.finish s).1 = some r
  written : log.get ((execute c order).run.finish s).2.world = log.get s.world ++ notes

/-! ## Kinds of calls -/

section Kinds

variable {S E : Type}

/-- The connections that were asked for. -/
def connections (notes : List (Note S E)) : List (Except ServiceError S) :=
  notes.filterMap fun
    | .connect reply => some reply
    | _ => none

/-- The entries that were to be opened. -/
def openings (notes : List (Note S E)) : List (S × String × Except ServiceError E) :=
  notes.filterMap fun
    | .openEntry session name reply => some (session, name, reply)
    | _ => none

/-- The entries that were to be created. -/
def creations (notes : List (Note S E)) : List (S × ServiceSpec × Except ServiceError E) :=
  notes.filterMap fun
    | .create session spec reply => some (session, spec, reply)
    | _ => none

/-- The entries that were to be deleted. -/
def deletions (notes : List (Note S E)) : List (E × Except ServiceError Unit) :=
  notes.filterMap fun
    | .delete entry reply => some (entry, reply)
    | _ => none

/-- The recovery actions that were to be set. -/
def settings (notes : List (Note S E)) : List (E × RecoveryAction × Except ServiceError Unit) :=
  notes.filterMap fun
    | .setRecovery entry action reply => some (entry, action, reply)
    | _ => none

/-- The log sources that were to be registered. -/
def registrations (notes : List (Note S E)) : List (String × Except ServiceError Unit) :=
  notes.filterMap fun
    | .registerLogSource name reply => some (name, reply)
    | _ => none

/-- The log sources that were to be removed. -/
def removals (notes : List (Note S E)) : List (String × Except ServiceError Unit) :=
  notes.filterMap fun
    | .removeLogSource name reply => some (name, reply)
    | _ => none

section Append

variable (notes rest : List (Note S E))

theorem connections_append : connections (notes ++ rest) = connections notes ++ connections rest := List.filterMap_append

theorem openings_append : openings (notes ++ rest) = openings notes ++ openings rest := List.filterMap_append

theorem deletions_append : deletions (notes ++ rest) = deletions notes ++ deletions rest := List.filterMap_append

theorem settings_append : settings (notes ++ rest) = settings notes ++ settings rest := List.filterMap_append

theorem registrations_append : registrations (notes ++ rest) = registrations notes ++ registrations rest :=
  List.filterMap_append

theorem removals_append : removals (notes ++ rest) = removals notes ++ removals rest := List.filterMap_append

end Append

end Kinds

end ServiceControl.Recorded
