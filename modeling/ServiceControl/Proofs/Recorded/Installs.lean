import ServiceControl.Proofs.Recorded.Staged
import ServiceControl.Proofs.Recorded.Tally
/-!
# What an install comes to

An install makes up to six calls that may be refused, and each refusal is met in its own way: it is handed on, it is what
the install hopes for, it is made good by deleting the new entry, or it is told and forgotten.  Main statement: what the
install comes to and what it calls, from the replies on its way (`install_settled`).
-/
namespace ServiceControl.Recorded

variable {S E : Type}

/-! ## A new entry -/

/-- Nothing is created, so nothing has to be made good. -/
structure Untouched (notes : List (Note S E)) : Prop where
  creations : creations notes = []
  registrations : registrations notes = []
  deletions : deletions notes = []
  settings : settings notes = []

/-- **What becomes of an entry once it is created.**  Its log source is registered right away, and only then it is either
kept or deleted. -/
structure Settled (name : String) (restarts : Bool) (entry : E) (r : Except ServiceError Unit)
    (notes : List (Note S E)) : Prop where
  registers : ∃ reply rest, notes = .registerLogSource name reply :: rest ∧ registrations rest = []
  kept : registrations notes = [(name, .ok ())] → r = .ok () ∧ deletions notes = [] ∧
    (restarts = true → ∃ reply, settings notes = [(entry, .restartNow, reply)]) ∧ (restarts = false → settings notes = [])
  undone : ∀ e, registrations notes = [(name, .error e)] → settings notes = [] ∧
    ((deletions notes = [(entry, .ok ())] ∧ r = .error (.logSourceRegistration name e.message)) ∨
      ∃ rollback, deletions notes = [(entry, .error rollback)] ∧
        r = .error (.rollbackFailed name e.message rollback.message))

section Settled

variable {name : String} {restarts : Bool} {entry : E} {r : Except ServiceError Unit} {notes : List (Note S E)}

theorem Equipping.settled (h : Equipping name restarts entry r notes) : Settled name restarts entry r notes := by
  cases h with
  | rolledBack e =>
    refine ⟨⟨_, _, rfl, rfl⟩, ?_, ?_⟩
    · rintro ⟨⟩
    · rintro _ ⟨⟩
      exact ⟨rfl, .inl ⟨rfl, rfl⟩⟩
  | stuck e rollback =>
    refine ⟨⟨_, _, rfl, rfl⟩, ?_, ?_⟩
    · rintro ⟨⟩
    · rintro _ ⟨⟩
      exact ⟨rfl, .inr ⟨rollback, rfl, rfl⟩⟩
  | plain off =>
    refine ⟨⟨_, _, rfl, rfl⟩, fun _ => ⟨rfl, rfl, ?_, fun _ => rfl⟩, ?_⟩
    · exact fun on => absurd (off.symm.trans on) Bool.noConfusion
    · rintro _ ⟨⟩
  | set on reply =>
    refine ⟨⟨_, _, rfl, rfl⟩, fun _ => ⟨rfl, rfl, fun _ => ⟨reply, rfl⟩, ?_⟩, ?_⟩
    · exact fun off => absurd (off.symm.trans on) Bool.noConfusion
    · rintro _ ⟨⟩

/-- What comes later has nothing to do with the entry. -/
theorem Settled.append (h : Settled name restarts entry r notes) {rest : List (Note S E)} (untouched : Untouched rest) :
    Settled name restarts entry r (notes ++ rest) := by
  have hregistrations : registrations (notes ++ rest) = registrations notes := by
    rw [registrations_append, untouched.registrations, List.append_nil]
  have hdeletions : deletions (notes ++ rest) = deletions notes := by
    rw [deletions_append, untouched.deletions, List.append_nil]
  have hsettings : settings (notes ++ rest) = settings notes := by
    rw [settings_append, untouched.settings, List.append_nil]
  refine ⟨?_, ?_, ?_⟩
  · obtain ⟨reply, more, rfl, once⟩ := h.registers
    refine ⟨reply, more ++ rest, rfl, ?_⟩
    rw [registrations_append, once, untouched.registrations, List.append_nil]
  · rw [hregistrations, hdeletions, hsettings]
    exact h.kept
  · rw [hregistrations, hdeletions, hsettings]
    exact h.undone

/-- **What an entry is registered for decides over it.** -/
theorem Settled.ok_iff (h : Settled name restarts entry r notes) :
    r = .ok () ↔ registrations notes = [(name, .ok ())] := by
  refine ⟨fun ok => ?_, fun registered => (h.kept registered).1⟩
  obtain ⟨reply, rest, hnotes, once⟩ := h.registers
  have registered : registrations notes = [(name, reply)] := by
    rw [hnotes]
    exact congrArg _ once
  cases reply with
  | ok _ => exact registered
  | error e =>
    obtain ⟨-, ⟨-, hr⟩ | ⟨rollback, -, hr⟩⟩ := h.undone e registered
    · cases ok.symm.trans hr
    · cases ok.symm.trans hr

end Settled

/-! ## An install -/

/-- **What an install comes to**, from each reply on its way. -/
structure InstallAccount (config : ServiceConfig) (binary : RunningBinary) (r : Except ServiceError Unit)
    (notes : List (Note S E)) : Prop where
  connects : ∃ reply, connections notes = [reply] ∧ ∀ e, reply = .error e → r = .error e ∧ notes = [.connect (.error e)]
  opens : ∀ session, connections notes = [.ok session] → ∃ reply, openings notes = [(session, config.name, reply)] ∧
    (∀ entry, reply = .ok entry → r = .error (.alreadyExists config.name) ∧ Untouched notes) ∧
    ∀ e, reply = .error e → (∀ name, e ≠ .notInstalled name) → r = .error e ∧ Untouched notes
  creates : ∀ session name, openings notes = [(session, config.name, .error (.notInstalled name))] →
    (∀ e, ServiceSpec.ofConfig binary config = .error e → r = .error e ∧ Untouched notes) ∧
    ∀ spec, ServiceSpec.ofConfig binary config = .ok spec → ∃ reply, creations notes = [(session, spec, reply)] ∧
      ∀ e, reply = .error e → r = .error e ∧ registrations notes = [] ∧ deletions notes = [] ∧ settings notes = []
  created : ∀ session spec entry, creations notes = [(session, spec, .ok entry)] → ∃ earlier later,
    notes = earlier ++ .create session spec (.ok entry) :: later ∧ Untouched earlier ∧
      Settled config.name config.restartOnFailure entry r later

section Install

variable {config : ServiceConfig} {binary : RunningBinary} {r : Except ServiceError Unit} {notes : List (Note S E)}

/-- Where the entry is absent, it may be created. -/
theorem absent_opens {session : S} {name : String} {notes : List (Note S E)} (h : connections notes = [.ok session])
    (h' : openings notes = [(session, config.name, .error (.notInstalled name))]) :
    ∀ session, connections notes = [.ok session] → ∃ reply, openings notes = [(session, config.name, reply)] ∧
      (∀ entry, reply = .ok entry → r = .error (.alreadyExists config.name) ∧ Untouched notes) ∧
      ∀ e, reply = .error e → (∀ name, e ≠ .notInstalled name) → r = .error e ∧ Untouched notes := by
  intro session' connected
  rw [h] at connected
  cases connected
  refine ⟨_, h', nofun, ?_⟩
  rintro _ ⟨⟩ clear
  exact absurd rfl (clear name)

/-- An entry that is created has come after all that was asked for it, and what becomes of it comes later. -/
theorem created_account (session : S) (name : String) {spec : ServiceSpec} {entry : E} {equipment : List (Note S E)}
    (resolved : ServiceSpec.ofConfig binary config = .ok spec)
    (equip : Equipping config.name config.restartOnFailure entry r equipment) :
    InstallAccount config binary r
      ([.connect (.ok session), .openEntry session config.name (.error (.notInstalled name))] ++
        .create session spec (.ok entry) :: (equipment ++ [.closeEntry entry, .closeSession session])) := by
  have untouched : Untouched [Note.closeEntry entry, .closeSession session] := ⟨rfl, rfl, rfl, rfl⟩
  have settled := equip.settled.append untouched
  -- nothing that comes after the creation is a connection, an opening or a creation
  generalize hlater : equipment ++ [.closeEntry entry, .closeSession session] = later at settled ⊢
  obtain ⟨connected, opened, created⟩ : connections later = [] ∧ openings later = [] ∧ creations later = [] := by
    subst hlater
    cases equip <;> exact ⟨rfl, rfl, rfl⟩
  have openings : openings (.connect (.ok session) :: .openEntry session config.name (.error (.notInstalled name)) ::
      .create session spec (.ok entry) :: later) = [(session, config.name, .error (.notInstalled name))] :=
    congrArg (List.cons _) opened
  have creations : creations (.connect (.ok session) :: .openEntry session config.name (.error (.notInstalled name)) ::
      .create session spec (.ok entry) :: later) = [(session, spec, .ok entry)] := congrArg (List.cons _) created
  refine ⟨⟨.ok session, congrArg (List.cons _) connected, nofun⟩,
    absent_opens (congrArg (List.cons _) connected) openings, ?_, ?_⟩
  · intro session' name' hopenings
    obtain ⟨rfl, -⟩ := Prod.mk.inj (List.cons.inj (openings.symm.trans hopenings)).1
    refine ⟨fun _ h => ?_, fun _ h => ?_⟩
    · cases resolved.symm.trans h
    · obtain rfl := Except.ok.inj (resolved.symm.trans h)
      exact ⟨_, creations, nofun⟩
  · intro session' spec' entry' hcreations
    obtain ⟨rfl, hcreated⟩ := Prod.mk.inj (List.cons.inj (creations.symm.trans hcreations)).1
    obtain ⟨rfl, hentry⟩ := Prod.mk.inj hcreated
    obtain rfl := Except.ok.inj hentry
    exact ⟨_, later, rfl, ⟨rfl, rfl, rfl, rfl⟩, settled⟩

theorem install_account (h : Held .connect .closeSession (Installing config binary) r notes) :
    InstallAccount config binary r notes := by
  cases h with
  | refused e =>
    refine ⟨⟨_, rfl, ?_⟩, nofun, nofun, nofun⟩
    rintro _ ⟨⟩
    exact ⟨rfl, rfl⟩
  | used session use =>
    cases use with
    | present entry =>
      refine ⟨⟨_, rfl, nofun⟩, ?_, nofun, nofun⟩
      rintro _ ⟨⟩
      exact ⟨_, rfl, fun _ _ => ⟨rfl, rfl, rfl, rfl, rfl⟩, nofun⟩
    | unclear unclear =>
      refine ⟨⟨_, rfl, nofun⟩, ?_, ?_, nofun⟩
      · rintro _ ⟨⟩
        refine ⟨_, rfl, nofun, ?_⟩
        rintro _ ⟨⟩ -
        exact ⟨rfl, rfl, rfl, rfl, rfl⟩
      · rintro _ name ⟨⟩
        exact absurd rfl (unclear name)
    | unresolved name unresolved =>
      refine ⟨⟨_, rfl, nofun⟩, absent_opens rfl rfl, ?_, nofun⟩
      rintro _ _ ⟨⟩
      refine ⟨fun _ h => ?_, fun _ h => ?_⟩
      · obtain rfl := Except.error.inj (unresolved.symm.trans h)
        exact ⟨rfl, rfl, rfl, rfl, rfl⟩
      · cases unresolved.symm.trans h
    | resolved name resolved created =>
      cases created with
      | refused e =>
        refine ⟨⟨_, rfl, nofun⟩, absent_opens rfl rfl, ?_, nofun⟩
        rintro _ _ ⟨⟩
        refine ⟨fun _ h => ?_, fun _ h => ?_⟩
        · cases resolved.symm.trans h
        · obtain rfl := Except.ok.inj (resolved.symm.trans h)
          refine ⟨_, rfl, ?_⟩
          rintro _ ⟨⟩
          exact ⟨rfl, rfl, rfl, rfl⟩
      | used entry equip =>
        have account := created_account session name resolved equip
        simpa using account

namespace InstallAccount

variable (h : InstallAccount config binary r notes)
include h

/-- An entry that is created comes to what it is registered for. -/
theorem settled {session : S} {spec : ServiceSpec} {entry : E} (created : creations notes = [(session, spec, .ok entry)]) :
    ∃ reply, registrations notes = [(config.name, reply)] ∧ (r = .ok () ↔ reply = .ok ()) ∧ ∀ e, r = .error e →
      (∃ reason, e = .logSourceRegistration config.name reason) ∨
        ∃ reason rollback, e = .rollbackFailed config.name reason rollback := by
  obtain ⟨earlier, later, hnotes, untouched, settled⟩ := h.created session spec entry created
  obtain ⟨reply, rest, hlater, once⟩ := settled.registers
  have hregistrations : registrations later = [(config.name, reply)] := by
    rw [hlater]
    exact congrArg (List.cons _) once
  refine ⟨reply, ?_, ?_, ?_⟩
  · rw [hnotes, registrations_append, untouched.registrations]
    exact hregistrations
  · rw [settled.ok_iff, hregistrations]
    simp
  · rintro e rfl
    cases reply with
    | ok _ => cases (settled.kept hregistrations).1
    | error refusal =>
      obtain ⟨-, ⟨-, hr⟩ | ⟨rollback, -, hr⟩⟩ := settled.undone refusal hregistrations
      · exact .inl ⟨_, Except.error.inj hr⟩
      · exact .inr ⟨_, _, Except.error.inj hr⟩

/-- **An install succeeds just where the entry was created and its log source registered.** -/
theorem ok_iff : r = .ok () ↔
    (∃ session spec entry, creations notes = [(session, spec, .ok entry)]) ∧
      registrations notes = [(config.name, .ok ())] := by
  constructor
  · rintro rfl
    obtain ⟨connected, hconnected, unconnected⟩ := h.connects
    cases connected with
    | error e => cases (unconnected e rfl).1
    | ok session =>
      obtain ⟨opened, hopened, present, unclear⟩ := h.opens session hconnected
      cases opened with
      | ok entry => cases (present entry rfl).1
      | error e =>
        by_cases absent : ∃ name, e = .notInstalled name
        · obtain ⟨name, rfl⟩ := absent
          obtain ⟨unresolved, creates⟩ := h.creates session name hopened
          cases hspec : ServiceSpec.ofConfig binary config with
          | error e => cases (unresolved e hspec).1
          | ok spec =>
            obtain ⟨created, hcreated, uncreated⟩ := creates spec hspec
            cases created with
            | error e => cases (uncreated e rfl).1
            | ok entry =>
              obtain ⟨reply, hreply, iff, -⟩ := h.settled hcreated
              obtain rfl := iff.1 rfl
              exact ⟨⟨session, spec, entry, hcreated⟩, hreply⟩
        · cases (unclear e rfl (not_exists.1 absent)).1
  · rintro ⟨⟨session, spec, entry, created⟩, registered⟩
    obtain ⟨reply, hreply, iff, -⟩ := h.settled created
    obtain ⟨-, rfl⟩ := Prod.mk.inj (List.cons.inj (hreply.symm.trans registered)).1
    exact iff.2 rfl

end InstallAccount

variable {γ : Type} [Background γ] {c : Controller γ S E} {g : Gateway γ S E} {log : Cell γ (List (Note S E))}

/-- **Whatever is refused on the way, an install comes to what it should.**  It calls and answers as its account says, it
succeeds just where the entry was created and its log source registered, and once the entry is there it fails only as a
registration that was undone, or that could not be. -/
theorem install_settled (records : Records c g log) (s : Scene γ) : ∃ r notes, Comes c log .install s r notes ∧
    InstallAccount c.config c.binary r notes ∧
    (r = .ok () ↔ (∃ session spec entry, creations notes = [(session, spec, .ok entry)]) ∧
      registrations notes = [(c.config.name, .ok ())]) ∧
    ∀ session spec entry e, creations notes = [(session, spec, .ok entry)] → r = .error e →
      (∃ reason, e = .logSourceRegistration c.config.name reason) ∨
        ∃ reason rollback, e = .rollbackFailed c.config.name reason rollback := by
  obtain ⟨notes, written, r, result, conduct⟩ := execute_conducts records .install s
  have account := install_account conduct
  refine ⟨r, notes, ⟨result, written⟩, account, account.ok_iff, ?_⟩
  intro session spec entry e created failed
  obtain ⟨reply, -, -, fails⟩ := account.settled created
  exact fails e failed

end Install

open Logged in
/-- The log source is refused, and then the new entry cannot be deleted either. -/
theorem install_settled_stuck :
    let denial : ServiceError := .manager "access is denied"
    let mark : ServiceError := .manager "marked for deletion"
    let machine : Scripted.Machine := {
      replies := fun
        | .openEntry => [.error (.notInstalled "svcA")]
        | .registerLogSource => [.error denial]
        | .delete => [.error mark]
        | _ => [] }
    let first : Scene (Scenario.Stage Logged) := { world := { manager := { machine } } }
    let control := controller { name := "svcA", executable := some "/opt/svcA", restartOnFailure := true }
    let failure : ServiceError := .rollbackFailed "svcA" denial.message mark.message
    ∃ notes : List (Note Nat Nat), Comes control log .install first (.error failure) notes ∧
      InstallAccount control.config control.binary (.error failure) notes ∧
      notes = [
        .connect (.ok 0), .openEntry 0 "svcA" (.error (.notInstalled "svcA")),
        .create 0 { name := "svcA", displayName := "svcA", executable := "/opt/svcA" } (.ok 1),
        .registerLogSource "svcA" (.error denial), .delete 1 (.error mark), .closeEntry 1, .closeSession 0] := by
  intro denial mark machine first control failure
  obtain ⟨r, notes, comes, account, -⟩ := install_settled (records _ : Records control gateway log) first
  have result : ((execute control .install).run.finish first).1 = some (.error failure) := by decide +kernel
  obtain rfl := Option.some.inj (comes.result.symm.trans result)
  refine ⟨notes, comes, account, ?_⟩
  have written : log.get ((execute control .install).run.finish first).2.world = notes := comes.written
  rw [← written]
  decide +kernel

end ServiceControl.Recorded
