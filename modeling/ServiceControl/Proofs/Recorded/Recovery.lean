import ServiceControl.Proofs.Recorded.Conduct
import ServiceControl.Proofs.Recorded.Staged
/-!
# How recovery actions are set

A service that is to be restarted when it fails is not restarted while it is stopped: the recovery action is taken away
right before the request to stop, and given back right before the service is started.  Where that is refused, the command
it was for is not sent.  Main statement: so it is in every operation, whatever the gateway replies
(`recovery_disciplined`).
-/
namespace ServiceControl.Recorded

variable {S E α : Type}

/-! ## Commands and settings -/

/-- The setting that comes right before a command. -/
def setting? : Note S E → Option (Note S E)
  | .control entry .stop _ => some (.setRecovery entry .none (.ok ()))
  | .start entry _ => some (.setRecovery entry .restartNow (.ok ()))
  | _ => none

/-- Neither such a command nor a setting. -/
def isTame : Note S E → Bool
  | .control _ .stop _ | .start .. | .setRecovery .. => false
  | _ => true

section Tame

variable {n : Note S E}

theorem setting?_of_isTame (tame : isTame n = true) : setting? n = none := by
  cases n with
  | start => cases tame
  | control _ signal _ =>
    cases signal with
    | stop => cases tame
    | _ => rfl
  | _ => rfl

theorem isTame_of_setting? {setting : Note S E} (h : setting? n = some setting) : isTame n = false := by
  cases tame : isTame n with
  | true =>
    rw [setting?_of_isTame tame] at h
    cases h
  | false => rfl

theorem isTame_of_watches {name : String} (h : Watches name n) : isTame n = true := by
  cases h <;> rfl

end Tame

/-- **Every command comes right after its setting.** -/
def Prepared (notes : List (Note S E)) : Prop :=
  ∀ earlier n later setting, notes = earlier ++ n :: later → setting? n = some setting →
    ∃ earliest, earlier = earliest ++ [setting]

namespace Prepared

theorem of_none {notes : List (Note S E)} (h : ∀ n ∈ notes, setting? n = none) : Prepared notes := by
  rintro earlier n later setting rfl hn
  rw [h n (by simp)] at hn
  cases hn

theorem of_tame {notes : List (Note S E)} (h : ∀ n ∈ notes, isTame n = true) : Prepared notes :=
  .of_none fun n hn => setting?_of_isTame (h n hn)

theorem append {notes notes' : List (Note S E)} (h : Prepared notes) (h' : Prepared notes') :
    Prepared (notes ++ notes') := by
  intro earlier n later setting split hn
  -- the command is in the one part or in the other
  rcases List.append_eq_append_iff.1 split with ⟨between, rfl, hnotes'⟩ | ⟨between, hnotes, hlater⟩
  · obtain ⟨earliest, rfl⟩ := h' between n later setting hnotes' hn
    exact ⟨notes ++ earliest, by rw [List.append_assoc]⟩
  · cases between with
    | nil =>
      obtain ⟨earliest, hearliest⟩ := h' [] n later setting hlater.symm hn
      cases earliest <;> cases hearliest
    | cons _ between =>
      obtain ⟨rfl, rfl⟩ := List.cons.inj hlater
      exact h earlier _ between setting hnotes hn

/-- A command with its setting. -/
theorem pair {setting n : Note S E} (plain : setting? setting = none) (hn : setting? n = some setting) :
    Prepared [setting, n] := by
  intro earlier n' later setting' split hn'
  match earlier with
  | [] =>
    obtain ⟨rfl, -⟩ := List.cons.inj split
    rw [plain] at hn'
    cases hn'
  | [_] =>
    obtain ⟨rfl, hrest⟩ := List.cons.inj split
    obtain ⟨rfl, -⟩ := List.cons.inj hrest
    rw [hn] at hn'
    obtain rfl := Option.some.inj hn'
    exact ⟨[], rfl⟩
  | _ :: _ :: earlier =>
    have length := congrArg List.length split
    simp at length

end Prepared

/-- Some calls, with tame ones before and after them. -/
def Around (inner notes : List (Note S E)) : Prop :=
  ∃ pre post, notes = pre ++ inner ++ post ∧ (∀ n ∈ pre, isTame n = true) ∧ ∀ n ∈ post, isTame n = true

namespace Around

variable {inner notes : List (Note S E)}

theorem refl (notes : List (Note S E)) : Around notes notes :=
  ⟨[], [], by simp, fun _ h => absurd h List.not_mem_nil, fun _ h => absurd h List.not_mem_nil⟩

theorem cons (h : Around inner notes) {n : Note S E} (tame : isTame n = true) : Around inner (n :: notes) := by
  obtain ⟨pre, post, rfl, hpre, hpost⟩ := h
  exact ⟨n :: pre, post, rfl, List.forall_mem_cons.2 ⟨tame, hpre⟩, hpost⟩

theorem snoc (h : Around inner notes) {n : Note S E} (tame : isTame n = true) : Around inner (notes ++ [n]) := by
  obtain ⟨pre, post, rfl, hpre, hpost⟩ := h
  refine ⟨pre, post ++ [n], by rw [List.append_assoc], hpre, ?_⟩
  intro n' hn'
  rcases List.mem_append.1 hn' with hn' | hn'
  · exact hpost n' hn'
  · rwa [List.mem_singleton.1 hn']

theorem mem (h : Around inner notes) {n : Note S E} (wild : isTame n = false) (hn : n ∈ notes) : n ∈ inner := by
  obtain ⟨pre, post, rfl, hpre, hpost⟩ := h
  rcases List.mem_append.1 hn with hn | hn
  · rcases List.mem_append.1 hn with hn | hn
    · exact absurd ((hpre n hn).symm.trans wild) Bool.noConfusion
    · exact hn
  · exact absurd ((hpost n hn).symm.trans wild) Bool.noConfusion

theorem sub (h : Around inner notes) {n : Note S E} (hn : n ∈ inner) : n ∈ notes := by
  obtain ⟨pre, post, rfl, -, -⟩ := h
  simp [hn]

theorem tame (h : Around [] notes) : ∀ n ∈ notes, isTame n = true := by
  intro n hn
  cases tame : isTame n with
  | true => rfl
  | false => exact absurd (h.mem tame hn) List.not_mem_nil

theorem trans {notes' : List (Note S E)} (h : Around inner notes) (h' : Around notes notes') : Around inner notes' := by
  obtain ⟨pre, post, rfl, hpre, hpost⟩ := h
  obtain ⟨pre', post', rfl, hpre', hpost'⟩ := h'
  refine ⟨pre' ++ pre, post ++ post', by simp only [List.append_assoc], ?_, ?_⟩
  · exact List.forall_mem_append.2 ⟨hpre', hpre⟩
  · exact List.forall_mem_append.2 ⟨hpost, hpost'⟩

theorem prepared (h : Around inner notes) (hinner : Prepared inner) : Prepared notes := by
  obtain ⟨pre, post, rfl, hpre, hpost⟩ := h
  exact ((Prepared.of_tame hpre).append hinner).append (.of_tame hpost)

end Around

/-! ## Entries in use -/

section Use

variable {r : Except ServiceError α} {notes : List (Note S E)}

/-- What is held is obtained and given back with tame calls. -/
theorem held_around {η : Type} {take : Except ServiceError η → Note S E} {back : η → Note S E}
    {Use : η → Except ServiceError α → List (Note S E) → Prop} (h : Held take back Use r notes)
    (tameTake : ∀ reply, isTame (take reply) = true) (tameBack : ∀ held, isTame (back held) = true) :
    Around [] notes ∨ ∃ held inner, Use held r inner ∧ Around inner notes := by
  cases h with
  | refused e => exact .inl ((Around.refl []).cons (tameTake _))
  | used held use => exact .inr ⟨held, _, use, ((Around.refl _).snoc (tameBack held)).cons (tameTake _)⟩

theorem visiting_around {name : String} {Use : E → Except ServiceError α → List (Note S E) → Prop}
    (h : Visiting name Use r notes) : Around [] notes ∨ ∃ entry inner, Use entry r inner ∧ Around inner notes := by
  cases h with
  | refused e => exact .inl ((Around.refl []).cons rfl)
  | used session use =>
    obtain around | ⟨entry, inner, use, around⟩ := held_around use (fun _ => rfl) fun _ => rfl
    · exact .inl ((around.snoc rfl).cons rfl)
    · exact .inr ⟨entry, inner, use, (around.snoc rfl).cons rfl⟩

/-- A command that needs this setting, and nothing after it that has to do with recovery actions. -/
def Commands (entry : E) (action : RecoveryAction) (notes : List (Note S E)) : Prop :=
  ∃ n rest, notes = n :: rest ∧ setting? n = some (.setRecovery entry action (.ok ())) ∧ ∀ n' ∈ rest, isTame n' = true

theorem start_commands (entry : E) (reply : Except ServiceError Unit) :
    Commands (S := S) entry .restartNow [.start entry reply] :=
  ⟨_, [], rfl, rfl, fun _ h => absurd h List.not_mem_nil⟩

theorem halting_commands {entry : E} (h : Halting entry notes) : Commands entry .none notes := by
  obtain ⟨reply, looks, rfl, hlooks⟩ := h
  refine ⟨_, looks, rfl, rfl, fun n hn => ?_⟩
  obtain ⟨_, rfl⟩ := hlooks n hn
  rfl

/-- A command sets nothing. -/
theorem Commands.sets_nothing {entry : E} {action : RecoveryAction} (h : Commands entry action notes) {entry' : E}
    {action' : RecoveryAction} {reply : Except ServiceError Unit} : .setRecovery entry' action' reply ∉ notes := by
  obtain ⟨n, rest, rfl, hn, hrest⟩ := h
  intro mem
  rcases List.mem_cons.1 mem with rfl | mem
  · cases hn
  · cases hrest _ mem

section Provided

variable {restarts : Bool} {entry : E} {action : RecoveryAction}
  (h : Provided restarts entry action (fun _ => Commands entry action) r notes)
include h

theorem provided_prepared (on : restarts = true) : Prepared notes := by
  cases h with
  | plain off _ => exact absurd (off.symm.trans on) Bool.noConfusion
  | refused _ e =>
    refine .of_none fun n hn => ?_
    rw [List.mem_singleton.1 hn]
    rfl
  | set _ used =>
    obtain ⟨n, rest, rfl, hn, hrest⟩ := used
    exact (Prepared.pair rfl hn).append (.of_tame hrest)

theorem provided_spares (off : restarts = false) {entry' : E} {action' : RecoveryAction}
    {reply : Except ServiceError Unit} : .setRecovery entry' action' reply ∉ notes := by
  cases h with
  | plain _ used => exact used.sets_nothing
  | refused on _ => exact absurd (off.symm.trans on) Bool.noConfusion
  | set on _ => exact absurd (off.symm.trans on) Bool.noConfusion

/-- A setting that is refused is all there is. -/
theorem provided_refused {entry' : E} {action' : RecoveryAction} {e : ServiceError}
    (mem : .setRecovery entry' action' (.error e) ∈ notes) :
    entry' = entry ∧ action' = action ∧ r = .error e ∧ notes = [.setRecovery entry' action' (.error e)] := by
  cases h with
  | plain _ used => exact absurd mem used.sets_nothing
  | refused _ e' =>
    obtain ⟨rfl, rfl, h⟩ := Note.setRecovery.inj (List.mem_singleton.1 mem)
    obtain rfl := Except.error.inj h
    exact ⟨rfl, rfl, rfl, rfl⟩
  | set _ used =>
    rcases List.mem_cons.1 mem with h | mem
    · cases h
    · exact absurd mem used.sets_nothing

/-- No command needs another setting. -/
theorem provided_needs {n : Note S E} (hn : n ∈ notes) {entry' : E} {action' : RecoveryAction}
    (needs : setting? n = some (.setRecovery entry' action' (.ok ()))) : action' = action := by
  have command {notes : List (Note S E)} (h : Commands entry action notes) (hn : n ∈ notes) : action' = action := by
    obtain ⟨n', rest, rfl, hn', hrest⟩ := h
    rcases List.mem_cons.1 hn with rfl | hn
    · obtain ⟨-, rfl, -⟩ := Note.setRecovery.inj (Option.some.inj (needs.symm.trans hn'))
      rfl
    · exact absurd ((hrest n hn).symm.trans (isTame_of_setting? needs)) Bool.noConfusion
  cases h with
  | plain _ used => exact command used hn
  | refused _ e =>
    rw [List.mem_singleton.1 hn] at needs
    cases needs
  | set _ used =>
    rcases List.mem_cons.1 hn with rfl | hn
    · cases needs
    · exact command used hn

end Provided

/-! ### What is used of an operation -/

/-- Nothing but tame calls, or these around a command that is provided for. -/
def Provides (restarts : Bool) (action : RecoveryAction) (r : Except ServiceError α) (notes : List (Note S E)) : Prop :=
  Around [] notes ∨ ∃ entry inner, Around inner notes ∧
    Provided restarts entry action (fun _ => Commands entry action) r inner

theorem starting_provided {restarts : Bool} {entry : E} {r : Except ServiceError Unit}
    (h : Starting restarts entry r notes) :
    Provided restarts entry .restartNow (fun _ => Commands entry .restartNow) r notes := by
  cases h with
  | plain off use =>
    subst use
    exact .plain off (start_commands entry r)
  | refused on e => exact .refused on e
  | set on use =>
    subst use
    exact .set on (start_commands entry r)

theorem stopping_provided {restarts : Bool} {entry : E} {r : Except ServiceError StopOutcome}
    (h : Stopping restarts entry r notes) : Provided restarts entry .none (fun _ => Commands entry .none) r notes := by
  cases h with
  | plain off use => exact .plain off (halting_commands use)
  | refused on e => exact .refused on e
  | set on use => exact .set on (halting_commands use)

namespace Provides

variable {restarts : Bool} {action : RecoveryAction} (h : Provides restarts action r notes)
include h

theorem prepared (on : restarts = true) : Prepared notes := by
  obtain around | ⟨entry, inner, around, provided⟩ := h
  · exact around.prepared (.of_tame fun _ h => absurd h List.not_mem_nil)
  · exact around.prepared (provided_prepared provided on)

theorem spares (off : restarts = false) {entry : E} {action' : RecoveryAction} {reply : Except ServiceError Unit} :
    .setRecovery entry action' reply ∉ notes := by
  intro mem
  obtain around | ⟨entry, inner, around, provided⟩ := h
  · exact absurd (around.mem rfl mem) List.not_mem_nil
  · exact provided_spares provided off (around.mem rfl mem)

theorem refused {entry : E} {action' : RecoveryAction} {e : ServiceError}
    (mem : .setRecovery entry action' (.error e) ∈ notes) :
    action' = action ∧ r = .error e ∧ Around [.setRecovery entry action' (.error e)] notes := by
  obtain around | ⟨entry, inner, around, provided⟩ := h
  · exact absurd (around.mem rfl mem) List.not_mem_nil
  · obtain ⟨-, haction, hr, rfl⟩ := provided_refused provided (around.mem rfl mem)
    exact ⟨haction, hr, around⟩

/-- No command needs another setting. -/
theorem needs {n : Note S E} (hn : n ∈ notes) {entry : E} {action' : RecoveryAction}
    (needs : setting? n = some (.setRecovery entry action' (.ok ()))) : action' = action := by
  have wild := isTame_of_setting? needs
  obtain around | ⟨entry', inner, around, provided⟩ := h
  · exact absurd (around.mem wild hn) List.not_mem_nil
  · exact provided_needs provided (around.mem wild hn) needs

end Provides

end Use

/-- Where a setting is refused, no command is sent. -/
theorem Around.unsent {notes : List (Note S E)} {entry : E} {action : RecoveryAction} {e : ServiceError}
    (h : Around [.setRecovery entry action (.error e)] notes) {n : Note S E} (hn : n ∈ notes) {setting : Note S E} :
    setting? n ≠ some setting := by
  intro needs
  have mem := h.mem (isTame_of_setting? needs) hn
  rw [List.mem_singleton.1 mem] at needs
  cases needs

/-! ## Operations -/

/-- What becomes of an operation in which a setting is refused. -/
def Answered (name : String) (order : Scenario.Order) (r : Option (Except ServiceError Unit)) (notes : List (Note S E))
    (entry : E) (action : RecoveryAction) (e : ServiceError) : Prop :=
  match order with
  | .start => action = .restartNow ∧ r = some (.error e)
  | .stop => action = .none ∧ r = some (.error e)
  | .restart => (action = .none ∨ action = .restartNow) ∧ r = some (.error e)
  | .uninstall => action = .none ∧ ∃ earlier reply later,
      notes = earlier ++ .setRecovery entry action (.error e) :: .delete entry reply :: later
  | .install => action = .restartNow ∧ r = some (.ok ()) ∧ .registerLogSource name (.ok ()) ∈ notes
  | .status => False
  | .run => False

/-- **How recovery actions are set in an operation.** -/
structure Disciplined (config : ServiceConfig) (order : Scenario.Order) (r : Option (Except ServiceError Unit))
    (notes : List (Note S E)) : Prop where
  prepared : config.restartOnFailure = true → Prepared notes
  spared : config.restartOnFailure = false → ∀ entry action reply, .setRecovery entry action reply ∉ notes
  unsent : ∀ entry action e, .setRecovery entry action (.error e) ∈ notes →
    ∀ n ∈ notes, ∀ entry', setting? n ≠ some (.setRecovery entry' action (.ok ()))
  answered : ∀ entry action e, .setRecovery entry action (.error e) ∈ notes →
    Answered config.name order r notes entry action e

section Operations

variable {config : ServiceConfig} {binary : RunningBinary} {order : Scenario.Order}
  {r : Option (Except ServiceError Unit)} {notes : List (Note S E)}

theorem tame_disciplined (tame : ∀ n ∈ notes, isTame n = true) : Disciplined config order r notes where
  prepared _ := .of_tame tame
  spared _ _ _ _ mem := Bool.noConfusion (tame _ mem)
  unsent _ _ _ mem := Bool.noConfusion (tame _ mem)
  answered _ _ _ mem := Bool.noConfusion (tame _ mem)

theorem starting_provides {restarts : Bool} {name : String} {result : Except ServiceError Unit}
    (h : Visiting name (Starting restarts) result notes) : Provides restarts .restartNow result notes := by
  refine (visiting_around h).imp_right ?_
  rintro ⟨entry, inner, use, around⟩
  exact ⟨entry, inner, around, starting_provided use⟩

theorem halted_provides {restarts : Bool} {name : String} {result : Except ServiceError Unit}
    (h : Halted name restarts result notes) : Provides restarts .none result notes := by
  obtain ⟨outcome, rfl, visit⟩ := h
  refine (visiting_around visit).imp_right ?_
  rintro ⟨entry, inner, use, around⟩
  refine ⟨entry, inner, around, ?_⟩
  cases stopping_provided use with
  | plain off used => exact .plain off used
  | refused on e => exact .refused on e
  | set on used => exact .set on used

theorem Provides.disciplined {result : Except ServiceError Unit} {action : RecoveryAction}
    (h : Provides config.restartOnFailure action result notes)
    (answers : ∀ entry e, result = .error e → Answered config.name order (some result) notes entry action e) :
    Disciplined config order (some result) notes := by
  refine ⟨h.prepared, fun off _ _ _ => h.spares off, ?_, ?_⟩
  · intro entry action' e mem n hn _
    exact (h.refused mem).2.2.unsent hn
  · intro entry action' e mem
    obtain ⟨rfl, hresult, -⟩ := h.refused mem
    exact answers entry e hresult

theorem restart_disciplined {result : Except ServiceError Unit}
    (h : Restarting config.name config.restartOnFailure result notes) :
    Disciplined config .restart (some result) notes := by
  cases h with
  | refused halt =>
    refine (halted_provides halt).disciplined ?_
    rintro entry e ⟨⟩
    exact ⟨.inl rfl, rfl⟩
  | @halted _ notes₁ notes₂ halt start =>
    have stops := halted_provides halt
    have starts := starting_provides start
    -- the stop went well, so it is the start in which a setting is refused
    have later {entry : E} {action : RecoveryAction} {e : ServiceError}
        (mem : .setRecovery entry action (.error e) ∈ notes₁ ++ notes₂) : .setRecovery entry action (.error e) ∈ notes₂ := by
      refine (List.mem_append.1 mem).resolve_left fun mem => ?_
      obtain ⟨-, h, -⟩ := stops.refused mem
      cases h
    refine ⟨fun on => (stops.prepared on).append (starts.prepared on), ?_, ?_, ?_⟩
    · intro off entry action reply mem
      rcases List.mem_append.1 mem with mem | mem
      · exact stops.spares off mem
      · exact starts.spares off mem
    · intro entry action e mem n hn entry' needs
      obtain ⟨rfl, -, around⟩ := starts.refused (later mem)
      rcases List.mem_append.1 hn with hn | hn
      · cases stops.needs hn needs
      · exact around.unsent hn needs
    · intro entry action e mem
      obtain ⟨rfl, rfl, -⟩ := starts.refused (later mem)
      exact ⟨.inr rfl, rfl⟩

/-- **An uninstall goes on to delete the entry** where taking the recovery action away is refused. -/
theorem deleting_provides {restarts : Bool} {name : String} {result : Except ServiceError Unit}
    (h : Visiting name (Deleting restarts) result notes) :
    (∃ outcome : Except ServiceError StopOutcome, Provides restarts .none outcome notes) ∧
      ∀ entry action e, .setRecovery entry action (.error e) ∈ notes → ∃ earlier reply later,
        notes = earlier ++ .setRecovery entry action (.error e) :: .delete entry reply :: later := by
  obtain around | ⟨entry, inner, ⟨outcome, halt, stop, rfl⟩, around⟩ := visiting_around h
  · exact ⟨⟨.ok .graceful, .inl around⟩, fun _ _ _ mem => absurd (around.mem rfl mem) List.not_mem_nil⟩
  · have halted : Around halt notes := ((Around.refl halt).snoc rfl).trans around
    refine ⟨⟨outcome, .inr ⟨entry, halt, halted, stopping_provided stop⟩⟩, ?_⟩
    intro entry' action e mem
    obtain ⟨rfl, rfl, -, rfl⟩ := provided_refused (stopping_provided stop) (halted.mem rfl mem)
    obtain ⟨pre, post, rfl, -, -⟩ := around
    exact ⟨pre, result, post, by simp⟩

theorem uninstall_disciplined {result : Except ServiceError Unit}
    (h : Uninstalling config.name config.restartOnFailure result notes) :
    Disciplined config .uninstall (some result) notes := by
  -- the log source has nothing to do with recovery actions
  have visited {result result' : Except ServiceError Unit} {notes rest : List (Note S E)}
      (visit : Visiting config.name (Deleting config.restartOnFailure) result notes)
      (tame : ∀ n ∈ rest, isTame n = true) : Disciplined config .uninstall (some result') (notes ++ rest) := by
    obtain ⟨⟨outcome, provides⟩, deletes⟩ := deleting_provides visit
    have earlier {n : Note S E} (wild : isTame n = false) (mem : n ∈ notes ++ rest) : n ∈ notes :=
      (List.mem_append.1 mem).resolve_right fun mem => absurd ((tame n mem).symm.trans wild) Bool.noConfusion
    refine ⟨fun on => (provides.prepared on).append (.of_tame tame), ?_, ?_, ?_⟩
    · intro off entry action reply mem
      exact provides.spares off (earlier rfl mem)
    · intro entry action e mem n hn _ needs
      exact (provides.refused (earlier rfl mem)).2.2.unsent (earlier (isTame_of_setting? needs) hn) needs
    · intro entry action e mem
      obtain ⟨before, reply, after, hnotes⟩ := deletes entry action e (earlier rfl mem)
      refine ⟨(provides.refused (earlier rfl mem)).1, before, reply, after ++ rest, ?_⟩
      rw [hnotes, List.append_assoc]
      rfl
  cases h with
  | refused visit =>
    rw [← List.append_nil notes]
    exact visited visit fun _ h => absurd h List.not_mem_nil
  | done visit => exact visited visit fun n hn => by rw [List.mem_singleton.1 hn]; rfl
  | half visit e => exact visited visit fun n hn => by rw [List.mem_singleton.1 hn]; rfl

theorem install_cases {result : Except ServiceError Unit}
    (h : Held .connect .closeSession (Installing config binary) result notes) :
    Around [] notes ∨ config.restartOnFailure = true ∧ result = .ok () ∧ ∃ (entry : E) (reply : Except ServiceError Unit),
      Around [.registerLogSource config.name (.ok ()), .setRecovery entry .restartNow reply] notes := by
  obtain around | ⟨session, inner, install, around⟩ := held_around h (fun _ => rfl) fun _ => rfl
  · exact .inl around
  · cases install with
    | present entry => exact .inl ((((Around.refl []).cons rfl).cons rfl).trans around)
    | unclear _ => exact .inl (((Around.refl []).cons rfl).trans around)
    | unresolved name _ => exact .inl (((Around.refl []).cons rfl).trans around)
    | resolved name _ created =>
      obtain created | ⟨entry, inner, equip, created⟩ := held_around created (fun _ => rfl) fun _ => rfl
      · exact .inl ((created.cons rfl).trans around)
      · have outer := (created.cons rfl).trans around
        cases equip with
        | rolledBack e => exact .inl ((((Around.refl []).cons rfl).cons rfl).trans outer)
        | stuck e rollback => exact .inl ((((Around.refl []).cons rfl).cons rfl).trans outer)
        | plain _ => exact .inl (((Around.refl []).cons rfl).trans outer)
        | set on reply => exact .inr ⟨on, rfl, entry, reply, outer⟩

theorem install_disciplined {result : Except ServiceError Unit}
    (h : Held .connect .closeSession (Installing config binary) result notes) :
    Disciplined config .install (some result) notes := by
  obtain around | ⟨on, rfl, entry, reply, around⟩ := install_cases h
  · exact tame_disciplined around.tame
  · have plain {n : Note S E} (hn : n ∈ notes) : setting? n = none := by
      cases tame : isTame n with
      | true => exact setting?_of_isTame tame
      | false =>
        rcases List.mem_cons.1 (around.mem tame hn) with rfl | hn
        · rfl
        · rw [List.mem_singleton.1 hn]
          rfl
    refine ⟨fun _ => .of_none fun _ => plain, fun off => absurd (off.symm.trans on) Bool.noConfusion, ?_, ?_⟩
    · intro _ _ _ _ n hn _ needs
      rw [plain hn] at needs
      cases needs
    · intro entry' action e mem
      rcases List.mem_cons.1 (around.mem rfl mem) with h | h
      · cases h
      · obtain ⟨-, rfl, -⟩ := Note.setRecovery.inj (List.mem_singleton.1 h)
        exact ⟨rfl, rfl, around.sub (by simp)⟩

/-- **In every operation recovery actions are set as they should be.** -/
theorem conducts_disciplined (h : Conducts config binary order r notes) : Disciplined config order r notes := by
  cases order with
  | install =>
    obtain ⟨result, rfl, h⟩ := h
    exact install_disciplined h
  | uninstall =>
    obtain ⟨result, rfl, h⟩ := h
    exact uninstall_disciplined h
  | start =>
    obtain ⟨result, rfl, h⟩ := h
    refine (starting_provides h).disciplined ?_
    rintro entry e rfl
    exact ⟨rfl, rfl⟩
  | stop =>
    obtain ⟨result, rfl, h⟩ := h
    refine (halted_provides h).disciplined ?_
    rintro entry e rfl
    exact ⟨rfl, rfl⟩
  | restart =>
    obtain ⟨result, rfl, h⟩ := h
    exact restart_disciplined h
  | status => exact tame_disciplined fun n hn => isTame_of_watches (h.2 n hn)
  | run => exact tame_disciplined fun n hn => isTame_of_watches (h n hn)

end Operations

/-! ## Any number of operations -/

/-- The last setting that was not refused. -/
def lastSetting? (notes : List (Note S E)) : Option (E × RecoveryAction) :=
  (notes.filterMap fun
    | .setRecovery entry action (.ok ()) => some (entry, action)
    | _ => none).getLast?

theorem lastSetting?_snoc (notes : List (Note S E)) (entry : E) (action : RecoveryAction) :
    lastSetting? (notes ++ [.setRecovery entry action (.ok ())]) = some (entry, action) := by
  unfold lastSetting?
  rw [List.filterMap_append]
  exact List.getLast?_concat

/-- An operation of a controller, with what it came to and the log before and after. -/
structure Passage (S E : Type) where
  config : ServiceConfig
  order : Scenario.Order
  result : Option (Except ServiceError Unit)
  before : List (Note S E)
  after : List (Note S E)

/-- **What controllers of a recorded gateway do one after another**, the latest first, and whatever else goes on. -/
inductive Operated {γ : Type} [Background γ] (g : Gateway γ S E) (log : Cell γ (List (Note S E))) :
    List (Passage S E) → Scene γ → Prop
  | begin (s : Scene γ) : Operated g log [] s
  | order {passages : List (Passage S E)} {s after : Scene γ} {c : Controller γ S E} {order : Scenario.Order}
      {r : Option (Except ServiceError Unit)} (h : Operated g log passages s) (records : Records c g log)
      (done : (execute c order).run.finish s = (r, after)) :
      Operated g log (⟨c.config, order, r, log.get s.world, log.get after.world⟩ :: passages) after
  | elsewhere {passages : List (Passage S E)} {s after : Scene γ} (h : Operated g log passages s)
      (same : log.get after.world = log.get s.world) : Operated g log passages after

section Run

variable {γ : Type} [Background γ] {g : Gateway γ S E} {log : Cell γ (List (Note S E))} {passages : List (Passage S E)}
  {s : Scene γ}

theorem Operated.ordered (h : Operated g log passages s) {c : Controller γ S E} (records : Records c g log)
    (order : Scenario.Order) {t : Scene γ} (done : ((execute c order).run.finish s).2 = t) : ∃ p,
    Operated g log (p :: passages) t ∧ p.config = c.config ∧ p.order = order ∧ p.before = log.get s.world ∧
      p.after = log.get t.world := by
  subst done
  exact ⟨_, h.order records rfl, rfl, rfl, rfl, rfl⟩

theorem operated_disciplined (h : Operated g log passages s) : ∀ p ∈ passages, ∃ notes,
    p.after = p.before ++ notes ∧ Disciplined p.config p.order p.result notes := by
  induction h with
  | begin s => exact fun _ hp => absurd hp List.not_mem_nil
  | @order passages s after c order r h records done ih =>
    intro p hp
    rcases List.mem_cons.1 hp with rfl | hp
    · obtain ⟨notes, hnotes, conducts⟩ := execute_conducts records order s
      rw [done] at hnotes conducts
      exact ⟨notes, hnotes, conducts_disciplined conducts⟩
    · exact ih p hp
  | elsewhere _ _ ih => exact ih

/-- **Recovery actions are set with discipline**, whatever the gateway replies.  Where failures are provided for, a request
to stop comes right after the recovery action was taken away from the same entry, and a start right after it was set to a
restart at once; so it is the last setting before that.  A setting that is refused is not followed by the command it was
for, and only an install and an uninstall go on.  Where failures are not provided for, nothing is set. -/
theorem recovery_disciplined (h : Operated g log passages s) : ∀ p ∈ passages, ∃ notes, p.after = p.before ++ notes ∧
    (p.config.restartOnFailure = true →
      (∀ earlier entry reply later, notes = earlier ++ .control entry .stop reply :: later →
        (∃ earliest, earlier = earliest ++ [.setRecovery entry .none (.ok ())]) ∧
          lastSetting? (p.before ++ earlier) = some (entry, .none)) ∧
      (∀ earlier entry reply later, notes = earlier ++ .start entry reply :: later →
        (∃ earliest, earlier = earliest ++ [.setRecovery entry .restartNow (.ok ())]) ∧
          lastSetting? (p.before ++ earlier) = some (entry, .restartNow)) ∧
      ∀ entry action e, .setRecovery entry action (.error e) ∈ notes →
        (action = .none → ∀ entry' reply, .control entry' .stop reply ∉ notes) ∧
        (action = .restartNow → ∀ entry' reply, .start entry' reply ∉ notes) ∧
        Answered p.config.name p.order p.result notes entry action e) ∧
    (p.config.restartOnFailure = false → ∀ entry action reply, .setRecovery entry action reply ∉ notes) := by
  intro p hp
  obtain ⟨notes, hnotes, disciplined⟩ := operated_disciplined h p hp
  have last {earlier : List (Note S E)} {entry : E} {action : RecoveryAction}
      (prepared : ∃ earliest, earlier = earliest ++ [.setRecovery entry action (.ok ())]) :
      lastSetting? (p.before ++ earlier) = some (entry, action) := by
    obtain ⟨earliest, rfl⟩ := prepared
    rw [← List.append_assoc]
    exact lastSetting?_snoc _ entry action
  refine ⟨notes, hnotes, fun on => ⟨?_, ?_, ?_⟩, disciplined.spared⟩
  · intro earlier entry reply later split
    have prepared := disciplined.prepared on earlier _ later _ split rfl
    exact ⟨prepared, last prepared⟩
  · intro earlier entry reply later split
    have prepared := disciplined.prepared on earlier _ later _ split rfl
    exact ⟨prepared, last prepared⟩
  · intro entry action e mem
    refine ⟨?_, ?_, disciplined.answered entry action e mem⟩
    · rintro rfl entry' reply hstop
      exact disciplined.unsent entry _ e mem _ hstop entry' rfl
    · rintro rfl entry' reply hstart
      exact disciplined.unsent entry _ e mem _ hstart entry' rfl

end Run

open Logged in
/-- A service is started, and then the manager refuses to take the recovery action away: the stop is told so and not
asked for. -/
theorem recovery_disciplined_refused :
    let refusal : ServiceError := .manager "access is denied"
    let machine : Scripted.Machine := {
      replies := fun
        | .setRecovery => [.ok .stopped, .error refusal]
        | _ => [] }
    let first : Scene (Scenario.Stage Logged) := { world := { manager := { machine } } }
    let control := controller { name := "svcA", restartOnFailure := true }
    let started := ((execute control .start).run.finish first).2
    let last := ((execute control .stop).run.finish started).2
    ∃ passages, Operated gateway log passages last ∧
      (∃ p ∈ passages, p.order = .stop ∧ p.result = some (.error refusal) ∧
        ∀ entry reply, .control entry .stop reply ∉ p.after.drop p.before.length) ∧
      log.get last.world = [
        .connect (.ok 0), .openEntry 0 "svcA" (.ok 1), .setRecovery 1 .restartNow (.ok ()), .start 1 (.ok ()),
        .closeEntry 1, .closeSession 0,
        .connect (.ok 2), .openEntry 2 "svcA" (.ok 3), .setRecovery 3 .none (.error refusal),
        .closeEntry 3, .closeSession 2] := by
  intro refusal machine first control started last
  have recorded : Records control gateway log := records _
  obtain ⟨p₁, h₁, -⟩ := (Operated.begin first).ordered recorded .start (t := started) rfl
  obtain ⟨p₂, h₂, hconfig, horder, hbefore, hafter⟩ := h₁.ordered recorded .stop (t := last) rfl
  have before : log.get started.world = [
      .connect (.ok 0), .openEntry 0 "svcA" (.ok 1), .setRecovery 1 .restartNow (.ok ()), .start 1 (.ok ()),
      .closeEntry 1, .closeSession 0] := by decide +kernel
  have after : log.get last.world = log.get started.world ++ [
      .connect (.ok 2), .openEntry 2 "svcA" (.ok 3), .setRecovery 3 .none (.error refusal),
      .closeEntry 3, .closeSession 2] := by decide +kernel
  clear_value last started
  obtain ⟨notes, hnotes, disciplined, -⟩ := recovery_disciplined h₂ p₂ List.mem_cons_self
  rw [hafter, hbefore, after] at hnotes
  obtain rfl := (List.append_cancel_left hnotes).symm
  rw [hconfig] at disciplined
  obtain ⟨-, -, refused⟩ := disciplined rfl
  obtain ⟨unstopped, -, answered⟩ := refused 3 .none refusal (by simp)
  rw [horder] at answered
  refine ⟨_, h₂, ⟨p₂, List.mem_cons_self, horder, answered.2, ?_⟩, ?_⟩
  · rw [hafter, hbefore, after, List.drop_left]
    exact unstopped rfl
  · rw [after, before]
    rfl

end ServiceControl.Recorded
