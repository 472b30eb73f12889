import ServiceControl.Proofs.Recorded.Staged
import ServiceControl.Proofs.Recorded.Tally
/-!
# What an uninstall comes to

An uninstall tries to stop the service before it deletes the entry, and does not care how that goes.  Main statements: two
uninstalls that are replied the same to all else come to the same (`uninstall_regardless`), and an entry is deleted only
after the service was asked to stop, but where the recovery action could not be taken away for that (`deleted_after_stop`).
-/
namespace ServiceControl.Recorded

variable {S E : Type}

/-! ## The calls of a stop -/

/-- A call that is made to stop a service. -/
def isOfStop : Note S E → Bool
  | .setRecovery .. | .control .. | .query .. => true
  | _ => false

def isDelete : Note S E → Bool
  | .delete .. => true
  | _ => false

section Stopping

variable {restarts : Bool} {entry : E} {outcome : Except ServiceError StopOutcome} {notes : List (Note S E)}

theorem halting_isOfStop (h : Halting entry notes) : ∀ n ∈ notes, isOfStop n = true := by
  obtain ⟨reply, looks, rfl, hlooks⟩ := h
  intro n hn
  rcases List.mem_cons.1 hn with rfl | hn
  · rfl
  · obtain ⟨_, rfl⟩ := hlooks n hn
    rfl

theorem stopping_isOfStop (h : Stopping restarts entry outcome notes) : ∀ n ∈ notes, isOfStop n = true := by
  cases h with
  | plain _ use => exact halting_isOfStop use
  | refused _ e =>
    intro n hn
    rw [List.mem_singleton.1 hn]
    rfl
  | set _ use => exact List.forall_mem_cons.2 ⟨rfl, halting_isOfStop use⟩

/-- **A stop asks the service to stop**, but where the recovery action cannot be taken away. -/
theorem stopping_asks (h : Stopping restarts entry outcome notes) : (∃ reply, .control entry .stop reply ∈ notes) ∨
    restarts = true ∧ ∃ e, notes = [.setRecovery entry .none (.error e)] := by
  cases h with
  | plain _ use =>
    obtain ⟨reply, looks, rfl, -⟩ := use
    exact .inl ⟨reply, List.mem_cons_self⟩
  | refused on e => exact .inr ⟨on, e, rfl⟩
  | set _ use =>
    obtain ⟨reply, looks, rfl, -⟩ := use
    exact .inl ⟨reply, List.mem_cons_of_mem _ List.mem_cons_self⟩

/-- The calls of a stop are none of the others. -/
theorem others_of_stop (h : ∀ n ∈ notes, isOfStop n = true) :
    connections notes = [] ∧ openings notes = [] ∧ deletions notes = [] ∧ removals notes = [] := by
  refine ⟨?_, ?_, ?_, ?_⟩
  all_goals
    refine List.filterMap_eq_nil_iff.2 fun n hn => ?_
    have ofStop := h n hn
    cases n with
    | setRecovery | control | query => rfl
    | _ => cases ofStop

end Stopping

/-! ## An uninstall -/

/-- What becomes of the log source of an entry that was to be deleted. -/
def Removing (name : String) (reply r : Except ServiceError Unit) (rest : List (Note S E)) : Prop :=
  match reply with
  | .error e => r = .error e ∧ rest = []
  | .ok () => ∃ removed : Except ServiceError Unit, rest = [.removeLogSource name removed] ∧
      r = removed.mapError fun e => .logSourceRemoval name e.message

/-- **What an uninstall comes to**, from each reply on its way. -/
structure UninstallAccount (name : String) (r : Except ServiceError Unit) (notes : List (Note S E)) : Prop where
  connects : ∃ reply, connections notes = [reply] ∧ ∀ e, reply = .error e → r = .error e ∧ notes = [.connect (.error e)]
  opens : ∀ session, connections notes = [.ok session] → ∃ reply, openings notes = [(session, name, reply)] ∧
    ∀ e, reply = .error e → r = .error e ∧ deletions notes = [] ∧ removals notes = []
  deletes : ∀ session entry, openings notes = [(session, name, .ok entry)] → ∃ earlier reply later,
    notes = earlier ++ .delete entry reply :: later ∧ deletions notes = [(entry, reply)] ∧
      (∀ n ∈ later, isOfStop n = false) ∧ ∀ e, reply = .error e → r = .error e ∧ removals notes = []
  removes : ∀ entry, deletions notes = [(entry, .ok ())] → ∃ reply, removals notes = [(name, reply)] ∧
    (reply = .ok () → r = .ok ()) ∧ ∀ e, reply = .error e → r = .error (.logSourceRemoval name e.message)

section Uninstall

variable {name : String} {restarts : Bool} {r : Except ServiceError Unit} {notes : List (Note S E)}

/-- **The ways of a visit to delete an entry**: there is no session, there is no entry, or the entry is to be deleted. -/
theorem deleting_cases (visit : Visiting name (Deleting restarts) r notes) :
    (∃ e, r = .error e ∧ notes = [.connect (.error e)]) ∨
    (∃ session e, r = .error e ∧
      notes = [.connect (.ok session), .openEntry session name (.error e), .closeSession session]) ∨
    ∃ session entry outcome halt, Stopping restarts entry outcome halt ∧
      notes = (.connect (.ok session) :: .openEntry session name (.ok entry) :: halt) ++
        [.delete entry r, .closeEntry entry, .closeSession session] := by
  cases visit with
  | refused e => exact .inl ⟨e, rfl, rfl⟩
  | used session use =>
    cases use with
    | refused e => exact .inr (.inl ⟨session, e, rfl, rfl⟩)
    | used entry use =>
      obtain ⟨outcome, halt, stop, rfl⟩ := use
      exact .inr (.inr ⟨session, entry, outcome, halt, stop, by simp⟩)

/-- The same of an uninstall, which goes on to the log source once the entry is deleted. -/
theorem uninstalling_cases (h : Uninstalling name restarts r notes) :
    (∃ e, r = .error e ∧ notes = [.connect (.error e)]) ∨
    (∃ session e, r = .error e ∧
      notes = [.connect (.ok session), .openEntry session name (.error e), .closeSession session]) ∨
    ∃ session entry outcome halt reply rest, Stopping restarts entry outcome halt ∧ Removing name reply r rest ∧
      notes = (.connect (.ok session) :: .openEntry session name (.ok entry) :: halt) ++
        .delete entry reply :: .closeEntry entry :: .closeSession session :: rest := by
  cases h with
  | refused visit =>
    obtain ⟨e, he, rfl⟩ | ⟨session, e, he, rfl⟩ | ⟨session, entry, outcome, halt, stop, rfl⟩ := deleting_cases visit
    · exact .inl ⟨e, he, rfl⟩
    · exact .inr (.inl ⟨session, e, he, rfl⟩)
    · exact .inr (.inr ⟨session, entry, outcome, halt, .error _, [], stop, ⟨rfl, rfl⟩, rfl⟩)
  | done visit =>
    obtain ⟨e, ⟨⟩, -⟩ | ⟨session, e, ⟨⟩, -⟩ | ⟨session, entry, outcome, halt, stop, rfl⟩ := deleting_cases visit
    exact .inr (.inr ⟨session, entry, outcome, halt, .ok (), _, stop, ⟨.ok (), rfl, rfl⟩, by simp⟩)
  | half visit e =>
    obtain ⟨e', ⟨⟩, -⟩ | ⟨session, e', ⟨⟩, -⟩ | ⟨session, entry, outcome, halt, stop, rfl⟩ := deleting_cases visit
    exact .inr (.inr ⟨session, entry, outcome, halt, .ok (), _, stop, ⟨.error e, rfl, rfl⟩, by simp⟩)

/-- Nothing else is called for a log source. -/
theorem Removing.others {reply : Except ServiceError Unit} {rest : List (Note S E)} (h : Removing name reply r rest) :
    connections rest = [] ∧ openings rest = [] ∧ deletions rest = [] ∧
      ∀ n ∈ rest, isOfStop n = false ∧ isDelete n = false := by
  cases reply with
  | error e =>
    obtain ⟨-, rfl⟩ := h
    exact ⟨rfl, rfl, rfl, fun _ h => absurd h List.not_mem_nil⟩
  | ok _ =>
    obtain ⟨removed, rfl, -⟩ := h
    refine ⟨rfl, rfl, rfl, fun n hn => ?_⟩
    rw [List.mem_singleton.1 hn]
    exact ⟨rfl, rfl⟩

/-- The calls of an uninstall that gets to the entry, apart from those of the stop. -/
theorem deleted_calls {session : S} {entry : E} {outcome : Except ServiceError StopOutcome} {halt rest : List (Note S E)}
    {reply : Except ServiceError Unit} (stop : Stopping restarts entry outcome halt) (removing : Removing name reply r rest)
    (hnotes : notes = (.connect (.ok session) :: .openEntry session name (.ok entry) :: halt) ++
      .delete entry reply :: .closeEntry entry :: .closeSession session :: rest) :
    connections notes = [.ok session] ∧ openings notes = [(session, name, .ok entry)] ∧
      deletions notes = [(entry, reply)] ∧ removals notes = removals rest := by
  -- of the calls of the stop and of those for the log source only the removal counts here
  obtain ⟨hconnections, hopenings, hdeletions, hremovals⟩ := others_of_stop (stopping_isOfStop stop)
  obtain ⟨rconnections, ropenings, rdeletions, -⟩ := removing.others
  refine ⟨?_, ?_, ?_, ?_⟩
  · rw [hnotes, connections_append]
    show (.ok session :: connections halt) ++ connections rest = _
    rw [hconnections, rconnections]
    rfl
  · rw [hnotes, openings_append]
    show ((session, name, .ok entry) :: openings halt) ++ openings rest = _
    rw [hopenings, ropenings]
    rfl
  · rw [hnotes, deletions_append]
    show deletions halt ++ (entry, reply) :: deletions rest = _
    rw [hdeletions, rdeletions]
    rfl
  · rw [hnotes, removals_append]
    show removals halt ++ removals rest = _
    rw [hremovals]
    rfl

theorem uninstall_account (h : Uninstalling name restarts r notes) : UninstallAccount name r notes := by
  obtain ⟨e, rfl, rfl⟩ | ⟨session, e, rfl, rfl⟩ | ⟨session, entry, outcome, halt, reply, rest, stop, removing, hnotes⟩ :=
    uninstalling_cases h
  · refine ⟨⟨_, rfl, ?_⟩, nofun, nofun, nofun⟩
    rintro _ ⟨⟩
    exact ⟨rfl, rfl⟩
  · refine ⟨⟨_, rfl, nofun⟩, ?_, nofun, nofun⟩
    rintro _ ⟨⟩
    refine ⟨_, rfl, ?_⟩
    rintro _ ⟨⟩
    exact ⟨rfl, rfl, rfl⟩
  · obtain ⟨connected, opened, deleted, removed⟩ := deleted_calls stop removing hnotes
    obtain ⟨-, -, -, rother⟩ := removing.others
    refine ⟨⟨_, connected, nofun⟩, ?_, ?_, ?_⟩
    · intro session' hsession
      obtain rfl := Except.ok.inj (List.cons.inj (connected.symm.trans hsession)).1
      exact ⟨_, opened, nofun⟩
    · intro session' entry' hentry
      obtain ⟨-, hentry⟩ := Prod.mk.inj (List.cons.inj (opened.symm.trans hentry)).1
      obtain rfl := Except.ok.inj (Prod.mk.inj hentry).2
      refine ⟨_, reply, _, hnotes, deleted, ?_, ?_⟩
      · intro n hn
        rcases List.mem_cons.1 hn with rfl | hn
        · rfl
        rcases List.mem_cons.1 hn with rfl | hn
        · rfl
        exact (rother n hn).1
      · rintro e rfl
        obtain ⟨hr, rfl⟩ := removing
        exact ⟨hr, removed⟩
    · intro entry' hentry
      obtain ⟨-, rfl⟩ := Prod.mk.inj (List.cons.inj (deleted.symm.trans hentry)).1
      obtain ⟨reply, rfl, rfl⟩ := removing
      refine ⟨reply, removed, ?_, ?_⟩
      · rintro rfl
        rfl
      · rintro e rfl
        rfl

namespace UninstallAccount

variable (h : UninstallAccount name r notes)
include h

/-- **An entry is to be deleted just where it was opened.** -/
theorem deletes_iff : (∃ entry reply, deletions notes = [(entry, reply)]) ↔
    ∃ session entry, connections notes = [.ok session] ∧ openings notes = [(session, name, .ok entry)] := by
  constructor
  · rintro ⟨entry, reply, deleted⟩
    obtain ⟨connected, hconnected, unconnected⟩ := h.connects
    cases connected with
    | error e =>
      rw [(unconnected e rfl).2] at deleted
      cases deleted
    | ok session =>
      obtain ⟨opened, hopened, unopened⟩ := h.opens session hconnected
      cases opened with
      | error e => cases deleted.symm.trans (unopened e rfl).2.1
      | ok entry' => exact ⟨session, entry', hconnected, hopened⟩
  · rintro ⟨session, entry, -, opened⟩
    obtain ⟨-, reply, -, -, deleted, -⟩ := h.deletes session entry opened
    exact ⟨entry, reply, deleted⟩

/-- **A log source is to be removed just where the entry was deleted.** -/
theorem removes_iff : (∃ reply, removals notes = [(name, reply)]) ↔ ∃ entry, deletions notes = [(entry, .ok ())] := by
  constructor
  · rintro ⟨removed, hremoved⟩
    obtain ⟨connected, hconnected, unconnected⟩ := h.connects
    cases connected with
    | error e =>
      rw [(unconnected e rfl).2] at hremoved
      cases hremoved
    | ok session =>
      obtain ⟨opened, hopened, unopened⟩ := h.opens session hconnected
      cases opened with
      | error e => cases hremoved.symm.trans (unopened e rfl).2.2
      | ok entry =>
        obtain ⟨-, reply, -, -, deleted, -, undeleted⟩ := h.deletes session entry hopened
        cases reply with
        | error e => cases hremoved.symm.trans (undeleted e rfl).2
        | ok _ => exact ⟨entry, deleted⟩
  · rintro ⟨entry, deleted⟩
    obtain ⟨reply, removed, -⟩ := h.removes entry deleted
    exact ⟨reply, removed⟩

end UninstallAccount

end Uninstall

/-! ## Two uninstalls -/

/-- Replies that tell the same, whatever session or entry comes with them. -/
def Alike {α β : Type} (reply : Except ServiceError α) (reply' : Except ServiceError β) : Prop :=
  reply.map (fun _ => ()) = reply'.map fun _ => ()

theorem Alike.cases {α β : Type} {reply : Except ServiceError α} {reply' : Except ServiceError β}
    (h : Alike reply reply') :
    (∃ a b, reply = .ok a ∧ reply' = .ok b) ∨ ∃ e, reply = .error e ∧ reply' = .error e := by
  cases reply with
  | ok a =>
    cases reply' with
    | ok b => exact .inl ⟨a, b, rfl, rfl⟩
    | error _ => cases h
  | error e =>
    cases reply' with
    | ok _ => cases h
    | error _ =>
      obtain rfl := Except.error.inj h
      exact .inr ⟨e, rfl, rfl⟩

/-- **Two gateways reply the same to all that is no part of a stop.** -/
structure RepliedAlike {S' E' : Type} (notes : List (Note S E)) (notes' : List (Note S' E')) : Prop where
  connections : ∀ reply ∈ connections notes, ∀ reply' ∈ connections notes', Alike reply reply'
  openings : ∀ asked ∈ openings notes, ∀ asked' ∈ openings notes', Alike asked.2.2 asked'.2.2
  deletions : ∀ asked ∈ deletions notes, ∀ asked' ∈ deletions notes', asked.2 = asked'.2
  removals : ∀ asked ∈ removals notes, ∀ asked' ∈ removals notes', asked.2 = asked'.2

section Regardless

variable {S' E' : Type} {name : String} {r r' : Except ServiceError Unit} {notes : List (Note S E)}
  {notes' : List (Note S' E')}

/-- **What an uninstall comes to is told by these replies alone.** -/
theorem UninstallAccount.regardless (h : UninstallAccount name r notes) (h' : UninstallAccount name r' notes')
    (alike : RepliedAlike notes notes') : r = r' := by
  have only {α : Type} {l : List α} {x : α} (h : l = [x]) : x ∈ l := by
    rw [h]
    exact List.mem_singleton_self x
  obtain ⟨connected, hconnected, unconnected⟩ := h.connects
  obtain ⟨connected', hconnected', unconnected'⟩ := h'.connects
  have connections := alike.connections _ (only hconnected) _ (only hconnected')
  obtain ⟨session, session', rfl, rfl⟩ | ⟨e, rfl, rfl⟩ := connections.cases
  · obtain ⟨opened, hopened, unopened⟩ := h.opens session hconnected
    obtain ⟨opened', hopened', unopened'⟩ := h'.opens session' hconnected'
    have openings := alike.openings _ (only hopened) _ (only hopened')
    obtain ⟨entry, entry', rfl, rfl⟩ | ⟨e, rfl, rfl⟩ := openings.cases
    · obtain ⟨-, deleted, -, -, hdeleted, -, undeleted⟩ := h.deletes session entry hopened
      obtain ⟨-, deleted', -, -, hdeleted', -, undeleted'⟩ := h'.deletes session' entry' hopened'
      obtain rfl : deleted = deleted' := alike.deletions _ (only hdeleted) _ (only hdeleted')
      cases deleted with
      | error e => exact (undeleted e rfl).1.trans (undeleted' e rfl).1.symm
      | ok _ =>
        obtain ⟨removed, hremoved, kept, failed⟩ := h.removes entry hdeleted
        obtain ⟨removed', hremoved', kept', failed'⟩ := h'.removes entry' hdeleted'
        obtain rfl : removed = removed' := alike.removals _ (only hremoved) _ (only hremoved')
        cases removed with
        | ok _ => exact (kept rfl).trans (kept' rfl).symm
        | error e => exact (failed e rfl).trans (failed' e rfl).symm
    · exact (unopened e rfl).1.trans (unopened' e rfl).1.symm
  · exact (unconnected e rfl).1.trans (unconnected' e rfl).1.symm

variable {γ γ' : Type} [Background γ] [Background γ'] {c : Controller γ S E} {c' : Controller γ' S' E'}
  {g : Gateway γ S E} {g' : Gateway γ' S' E'} {log : Cell γ (List (Note S E))} {log' : Cell γ' (List (Note S' E'))}

/-- **An uninstall comes to the same however the stop goes.**  Two uninstalls of one name, each over a gateway and with a
terminator of its own, with or without a recovery action to be taken away: both come to their end and call and answer as
their accounts say, the entry is to be deleted just where it was opened and the log source to be removed just where the
entry was deleted, and where all that is no part of the stop is replied alike, they come to the same. -/
theorem uninstall_regardless (records : Records c g log) (records' : Records c' g' log')
    (same : c'.config.name = c.config.name) (s : Scene γ) (s' : Scene γ') : ∃ r r' notes notes',
    Comes c log .uninstall s r notes ∧ Comes c' log' .uninstall s' r' notes' ∧
    (RepliedAlike notes notes' → r = r') ∧
    UninstallAccount c.config.name r notes ∧
    ((∃ entry reply, deletions notes = [(entry, reply)]) ↔
      ∃ session entry, connections notes = [.ok session] ∧ openings notes = [(session, c.config.name, .ok entry)]) ∧
    ((∃ reply, removals notes = [(c.config.name, reply)]) ↔ ∃ entry, deletions notes = [(entry, .ok ())]) := by
  obtain ⟨notes, written, r, result, conduct⟩ := execute_conducts records .uninstall s
  obtain ⟨notes', written', r', result', conduct'⟩ := execute_conducts records' .uninstall s'
  have account := uninstall_account conduct
  have account' := uninstall_account conduct'
  rw [same] at account'
  exact ⟨r, r', notes, notes', ⟨result, written⟩, ⟨result', written'⟩, account.regardless account', account,
    account.deletes_iff, account.removes_iff⟩

end Regardless

open Logged in
/-- One service stops when it is asked to.  The other rejects that, cannot be terminated, and in the end is not told the
state of any more; it is deleted all the same, and the same becomes of its log source. -/
theorem uninstall_regardless_rejecting :
    let denial : ServiceError := .manager "access is denied"
    let gentle : Scripted.Machine := {
      replies := fun
        | .control => [.ok .stopped]
        | .removeLogSource => [.error denial]
        | _ => [] }
    let stubborn : Scripted.Machine := {
      replies := fun
        | .control => [.error (.controlRejected "busy")]
        | .query => [.ok ⟨.running, 7⟩, .ok ⟨.stopPending, 7⟩, .error (.manager "no such service")]
        | .terminate => [.error (.processNotFound 7)]
        | .removeLogSource => [.error denial]
        | _ => []
      stopTimeout := 350 }
    let first : Scene (Scenario.Stage Logged) := { world := { manager := { machine := gentle } } }
    let first' : Scene (Scenario.Stage Logged) := { world := { manager := { machine := stubborn } } }
    let control := controller { name := "svcA" }
    let control' := controller { name := "svcA", restartOnFailure := true }
    let failure : ServiceError := .logSourceRemoval "svcA" denial.message
    ∃ notes notes' : List (Note Nat Nat),
      Comes control log .uninstall first (.error failure) notes ∧
      Comes control' log .uninstall first' (.error failure) notes' ∧
      RepliedAlike notes notes' ∧
      notes = [
        .connect (.ok 0), .openEntry 0 "svcA" (.ok 1), .control 1 .stop (.ok .stopped), .delete 1 (.ok ()), .closeEntry 1,
        .closeSession 0, .removeLogSource "svcA" (.error denial)] ∧
      notes' = [
        .connect (.ok 0), .openEntry 0 "svcA" (.ok 1), .setRecovery 1 .none (.ok ()),
        .control 1 .stop (.error (.controlRejected "busy")), .query 1 (.ok ⟨.running, 7⟩), .query 1 (.ok ⟨.stopPending, 7⟩),
        .query 1 (.error (.manager "no such service")), .delete 1 (.ok ()), .closeEntry 1, .closeSession 0,
        .removeLogSource "svcA" (.error denial)] := by
  intro denial gentle stubborn first first' control control' failure
  have recorded : Records control gateway log := records _
  have recorded' : Records control' gateway log := records _
  have same : control'.config.name = control.config.name := rfl
  obtain ⟨r, r', notes, notes', comes, comes', regardless, -⟩ := uninstall_regardless recorded recorded' same first first'
  have result : ((execute control .uninstall).run.finish first).1 = some (.error failure) := by decide +kernel
  have written : log.get ((execute control .uninstall).run.finish first).2.world = notes := comes.written
  have written' : log.get ((execute control' .uninstall).run.finish first').2.world = notes' := comes'.written
  obtain rfl := Option.some.inj (comes.result.symm.trans result)
  have hnotes : notes = [
      .connect (.ok 0), .openEntry 0 "svcA" (.ok 1), .control 1 .stop (.ok .stopped), .delete 1 (.ok ()), .closeEntry 1,
      .closeSession 0, .removeLogSource "svcA" (.error denial)] := by
    rw [← written]
    decide +kernel
  have hnotes' : notes' = [
      .connect (.ok 0), .openEntry 0 "svcA" (.ok 1), .setRecovery 1 .none (.ok ()),
      .control 1 .stop (.error (.controlRejected "busy")), .query 1 (.ok ⟨.running, 7⟩), .query 1 (.ok ⟨.stopPending, 7⟩),
      .query 1 (.error (.manager "no such service")), .delete 1 (.ok ()), .closeEntry 1, .closeSession 0,
      .removeLogSource "svcA" (.error denial)] := by
    rw [← written']
    decide +kernel
  have alike : RepliedAlike notes notes' := by
    rw [hnotes, hnotes']
    refine ⟨?_, ?_, ?_, ?_⟩
    all_goals
      intro asked h asked' h'
      obtain rfl := List.mem_singleton.1 h
      obtain rfl := List.mem_singleton.1 h'
      rfl
  -- what the first comes to, the other comes to as well
  obtain rfl := regardless alike
  exact ⟨notes, notes', comes, comes', alike, hnotes, hnotes'⟩

/-! ## Asking before deleting -/

section Asking

/-- Where nothing else is of its kind, a list is split before it in one way. -/
theorem split_unique {α : Type} {kind : α → Bool} {pre post earlier later : List α} {x y : α}
    (hpre : ∀ n ∈ pre, kind n = false) (hpost : ∀ n ∈ post, kind n = false) (hy : kind y = true)
    (h : pre ++ x :: post = earlier ++ y :: later) : pre = earlier ∧ x = y := by
  have other {l : List α} (hl : ∀ n ∈ l, kind n = false) : y ∉ l := fun mem => Bool.noConfusion ((hl y mem).symm.trans hy)
  rcases List.append_eq_append_iff.1 h with ⟨between, rfl, hpost'⟩ | ⟨between, rfl, hlater⟩
  · cases between with
    | nil => exact ⟨(List.append_nil _).symm, (List.cons.inj hpost').1⟩
    | cons _ between =>
      obtain ⟨-, rfl⟩ := List.cons.inj hpost'
      exact absurd (by simp) (other hpost)
  · cases between with
    | nil => exact ⟨List.append_nil _, (List.cons.inj hlater).1.symm⟩
    | cons _ between =>
      obtain ⟨rfl, -⟩ := List.cons.inj hlater
      exact absurd (by simp) (other hpre)

theorem isDelete_of_isOfStop {n : Note S E} (h : isOfStop n = true) : isDelete n = false := by
  cases n with
  | setRecovery | control | query => rfl
  | _ => cases h

variable {name : String} {restarts : Bool} {r : Except ServiceError Unit} {notes : List (Note S E)}

/-- **What comes before an entry is deleted**: all of a stop of it. -/
theorem uninstalling_stops (h : Uninstalling name restarts r notes) {earlier later : List (Note S E)} {entry : E}
    {reply : Except ServiceError Unit} (split : notes = earlier ++ .delete entry reply :: later) :
    ∃ opened outcome halt, Stopping restarts entry outcome halt ∧ earlier = opened ++ halt := by
  have mem : .delete entry reply ∈ notes := by
    rw [split]
    exact List.mem_append_right _ List.mem_cons_self
  obtain ⟨e, rfl, rfl⟩ | ⟨session, e, rfl, rfl⟩ | ⟨session, entry', outcome, halt, reply', rest, stop, removing, rfl⟩ :=
    uninstalling_cases h
  · simp at mem
  · simp at mem
  · obtain ⟨-, -, -, rother⟩ := removing.others
    have hpre : ∀ n ∈ .connect (.ok session) :: .openEntry session name (.ok entry') :: halt, isDelete n = false :=
      List.forall_mem_cons.2 ⟨rfl, List.forall_mem_cons.2 ⟨rfl, fun n hn =>
        isDelete_of_isOfStop (stopping_isOfStop stop n hn)⟩⟩
    have hpost : ∀ n ∈ .closeEntry entry' :: .closeSession session :: rest, isDelete n = false :=
      List.forall_mem_cons.2 ⟨rfl, List.forall_mem_cons.2 ⟨rfl, fun n hn => (rother n hn).2⟩⟩
    obtain ⟨rfl, same⟩ := split_unique hpre hpost rfl split
    obtain ⟨rfl, -⟩ := Note.delete.inj same
    exact ⟨[.connect (.ok session), .openEntry session name (.ok entry')], outcome, halt, stop, rfl⟩

variable {γ : Type} [Background γ] {c : Controller γ S E} {g : Gateway γ S E} {log : Cell γ (List (Note S E))}

/-- **An entry is deleted only after the service was asked to stop**, in the same uninstall and on the same entry, but where
failures are provided for and the recovery action could not be taken away: then the entry is deleted right after that. -/
theorem deleted_after_stop (records : Records c g log) (s : Scene γ) : ∃ r notes, Comes c log .uninstall s r notes ∧
    ∀ earlier entry reply later, notes = earlier ++ .delete entry reply :: later →
      (∃ reply', .control entry .stop reply' ∈ earlier) ∨
      (c.config.restartOnFailure = true ∧ ∃ earliest e, earlier = earliest ++ [.setRecovery entry .none (.error e)]) := by
  obtain ⟨notes, written, r, result, conduct⟩ := execute_conducts records .uninstall s
  refine ⟨r, notes, ⟨result, written⟩, fun earlier entry reply later split => ?_⟩
  obtain ⟨opened, outcome, halt, stop, rfl⟩ := uninstalling_stops conduct split
  obtain ⟨reply', asked⟩ | ⟨on, e, rfl⟩ := stopping_asks stop
  · exact .inl ⟨reply', List.mem_append_right _ asked⟩
  · exact .inr ⟨on, opened, e, rfl⟩

end Asking

open Logged in
/-- The manager refuses the request to stop, and the entry is deleted after that. -/
theorem deleted_after_stop_refused :
    let refusal : ServiceError := .manager "access is denied"
    let machine : Scripted.Machine := {
      replies := fun
        | .control => [.error refusal]
        | _ => [] }
    let first : Scene (Scenario.Stage Logged) := { world := { manager := { machine } } }
    let control := controller { name := "svcA", restartOnFailure := true }
    ∃ notes : List (Note Nat Nat), Comes control log .uninstall first (.ok ()) notes ∧
      notes = [
        .connect (.ok 0), .openEntry 0 "svcA" (.ok 1), .setRecovery 1 .none (.ok ()), .control 1 .stop (.error refusal),
        .delete 1 (.ok ()), .closeEntry 1, .closeSession 0, .removeLogSource "svcA" (.ok ())] ∧
      ∃ earlier later, notes = earlier ++ .delete 1 (.ok ()) :: later ∧
        ((∃ reply, .control 1 .stop reply ∈ earlier) ∨ (control.config.restartOnFailure = true ∧
          ∃ earliest e, earlier = earliest ++ [.setRecovery 1 .none (.error e)])) := by
  intro refusal machine first control
  have recorded : Records control gateway log := records _
  obtain ⟨r, notes, comes, asked⟩ := deleted_after_stop recorded first
  have result : ((execute control .uninstall).run.finish first).1 = some (.ok ()) := by decide +kernel
  have written : log.get ((execute control .uninstall).run.finish first).2.world = notes := comes.written
  obtain rfl := Option.some.inj (comes.result.symm.trans result)
  have hnotes : notes = [
      .connect (.ok 0), .openEntry 0 "svcA" (.ok 1), .setRecovery 1 .none (.ok ()), .control 1 .stop (.error refusal)] ++
      .delete 1 (.ok ()) :: [.closeEntry 1, .closeSession 0, .removeLogSource "svcA" (.ok ())] := by
    rw [← written]
    decide +kernel
  exact ⟨notes, comes, hnotes, _, _, hnotes, asked _ _ _ _ hnotes⟩

open Logged in
/-- **A service is deleted that was never asked to stop**: the manager refuses to take the recovery action away. -/
theorem uninstall_unasked :
    let machine : Scripted.Machine := {
      replies := fun
        | .setRecovery => [.error (.manager "access is denied")]
        | _ => [] }
    let first : Scene (Scenario.Stage Logged) := { world := { manager := { machine } } }
    let control := controller { name := "svcA", restartOnFailure := true }
    ¬ ∀ r notes, Comes control log .uninstall first r notes → ∀ earlier entry reply later,
        notes = earlier ++ .delete entry reply :: later → ∃ reply', .control entry .stop reply' ∈ earlier := by
  intro machine first control asked
  have comes : Comes control log .uninstall first (.ok ()) ([
      .connect (.ok 0), .openEntry 0 "svcA" (.ok 1), .setRecovery 1 .none (.error (.manager "access is denied"))] ++
      .delete 1 (.ok ()) :: [.closeEntry 1, .closeSession 0, .removeLogSource "svcA" (.ok ())]) :=
    ⟨by decide +kernel, by decide +kernel⟩
  obtain ⟨reply, mem⟩ := asked _ _ comes _ _ _ _ rfl
  simp at mem

end ServiceControl.Recorded
