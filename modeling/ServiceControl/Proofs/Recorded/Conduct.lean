import ServiceControl.Proofs.Recorded.Notes
import ServiceControl.Proofs.Running
/-!
# What an operation calls

The calls of each operation of a controller, one after another, with what the operation comes to, over a gateway that may
reply what it likes.  Main statement: every operation calls its gateway in such an order (`execute_conducts`).
-/
namespace ServiceControl.Recorded

open Cell (Ensures Yields Keeps)

/-! ## Orders of calls -/

section Conducts

variable {S E α : Type}

/-- What an entry is used for once its recovery action is set, if it is to be set at all. -/
inductive Provided (restarts : Bool) (entry : E) (action : RecoveryAction)
    (Use : Except ServiceError α → List (Note S E) → Prop) : Except ServiceError α → List (Note S E) → Prop
  | plain {r : Except ServiceError α} {notes : List (Note S E)} (off : restarts = false) (use : Use r notes) :
      Provided restarts entry action Use r notes
  | refused (on : restarts = true) (e : ServiceError) :
      Provided restarts entry action Use (.error e) [.setRecovery entry action (.error e)]
  | set {r : Except ServiceError α} {notes : List (Note S E)} (on : restarts = true) (use : Use r notes) :
      Provided restarts entry action Use r (.setRecovery entry action (.ok ()) :: notes)

/-- The service is looked at, any number of times. -/
def Looks (entry : E) (notes : List (Note S E)) : Prop := ∀ n ∈ notes, ∃ reply, n = .query entry reply

/-- The service is asked to stop, and then looked at. -/
def Halting (entry : E) (notes : List (Note S E)) : Prop :=
  ∃ reply looks, notes = .control entry .stop reply :: looks ∧ Looks entry looks

def Stopping (restarts : Bool) (entry : E) : Except ServiceError StopOutcome → List (Note S E) → Prop :=
  Provided restarts entry .none fun _ => Halting entry

def Starting (restarts : Bool) (entry : E) : Except ServiceError Unit → List (Note S E) → Prop :=
  Provided restarts entry .restartNow fun r notes => notes = [.start entry r]

/-- The entry is deleted, however the stop before that went. -/
def Deleting (restarts : Bool) (entry : E) (r : Except ServiceError Unit) (notes : List (Note S E)) : Prop :=
  ∃ outcome halt, Stopping restarts entry outcome halt ∧ notes = halt ++ [.delete entry r]

/-- What is done with a new entry. -/
inductive Equipping (name : String) (restarts : Bool) (entry : E) : Except ServiceError Unit → List (Note S E) → Prop
  | rolledBack (e : ServiceError) : Equipping name restarts entry (.error (.logSourceRegistration name e.message))
      [.registerLogSource name (.error e), .delete entry (.ok ())]
  | stuck (e rollback : ServiceError) :
      Equipping name restarts entry (.error (.rollbackFailed name e.message rollback.message))
        [.registerLogSource name (.error e), .delete entry (.error rollback)]
  | plain (off : restarts = false) : Equipping name restarts entry (.ok ()) [.registerLogSource name (.ok ())]
  | set (on : restarts = true) (reply : Except ServiceError Unit) : Equipping name restarts entry (.ok ())
      [.registerLogSource name (.ok ()), .setRecovery entry .restartNow reply]

/-- What is done in a session to install a service: it must be known to be absent, and what is to be registered must be
known. -/
inductive Installing (config : ServiceConfig) (binary : RunningBinary) (session : S) :
    Except ServiceError Unit → List (Note S E) → Prop
  | present (entry : E) : Installing config binary session (.error (.alreadyExists config.name))
      [.openEntry session config.name (.ok entry), .closeEntry entry]
  | unclear {e : ServiceError} (unclear : ∀ name, e ≠ .notInstalled name) :
      Installing config binary session (.error e) [.openEntry session config.name (.error e)]
  | unresolved (name : String) {e : ServiceError} (unresolved : ServiceSpec.ofConfig binary config = .error e) :
      Installing config binary session (.error e) [.openEntry session config.name (.error (.notInstalled name))]
  | resolved (name : String) {spec : ServiceSpec} {r : Except ServiceError Unit} {notes : List (Note S E)}
      (resolved : ServiceSpec.ofConfig binary config = .ok spec)
      (created : Held (.create session spec) .closeEntry (Equipping config.name config.restartOnFailure) r notes) :
      Installing config binary session r (.openEntry session config.name (.error (.notInstalled name)) :: notes)

/-- An entry of a session is used. -/
def Visiting (name : String) (Use : E → Except ServiceError α → List (Note S E) → Prop) :
    Except ServiceError α → List (Note S E) → Prop :=
  Held .connect .closeSession fun session => Held (.openEntry session name) .closeEntry Use

/-- What is deleted is rid of its log source as well. -/
inductive Uninstalling (name : String) (restarts : Bool) : Except ServiceError Unit → List (Note S E) → Prop
  | refused {e : ServiceError} {notes : List (Note S E)} (visit : Visiting name (Deleting restarts) (.error e) notes) :
      Uninstalling name restarts (.error e) notes
  | done {notes : List (Note S E)} (visit : Visiting name (Deleting restarts) (.ok ()) notes) :
      Uninstalling name restarts (.ok ()) (notes ++ [.removeLogSource name (.ok ())])
  | half {notes : List (Note S E)} (visit : Visiting name (Deleting restarts) (.ok ()) notes) (e : ServiceError) :
      Uninstalling name restarts (.error (.logSourceRemoval name e.message))
        (notes ++ [.removeLogSource name (.error e)])

/-- A stop of the service as an operation of its own. -/
def Halted (name : String) (restarts : Bool) (r : Except ServiceError Unit) (notes : List (Note S E)) : Prop :=
  ∃ outcome, r = outcome.map (fun _ => ()) ∧ Visiting name (Stopping restarts) outcome notes

inductive Restarting (name : String) (restarts : Bool) : Except ServiceError Unit → List (Note S E) → Prop
  | refused {e : ServiceError} {notes : List (Note S E)} (halt : Halted name restarts (.error e) notes) :
      Restarting name restarts (.error e) notes
  | halted {r : Except ServiceError Unit} {notes notes' : List (Note S E)} (halt : Halted name restarts (.ok ()) notes)
      (start : Visiting name (Starting restarts) r notes') : Restarting name restarts r (notes ++ notes')

/-- The calls of one that only looks at the service. -/
inductive Watches (name : String) : Note S E → Prop
  | connect (reply : Except ServiceError S) : Watches name (.connect reply)
  | openEntry (session : S) (reply : Except ServiceError E) : Watches name (.openEntry session name reply)
  | query (entry : E) (reply : Except ServiceError ServiceStatus) : Watches name (.query entry reply)
  | closeEntry (entry : E) : Watches name (.closeEntry entry)
  | closeSession (session : S) : Watches name (.closeSession session)

/-- **What an operation calls, and what it comes to then**; a run may come to nothing. -/
def Conducts (config : ServiceConfig) (binary : RunningBinary) (order : Scenario.Order)
    (r : Option (Except ServiceError Unit)) (notes : List (Note S E)) : Prop :=
  match order with
  | .install => ∃ result, r = some result ∧ Held .connect .closeSession (Installing config binary) result notes
  | .uninstall => ∃ result, r = some result ∧ Uninstalling config.name config.restartOnFailure result notes
  | .start => ∃ result, r = some result ∧ Visiting config.name (Starting config.restartOnFailure) result notes
  | .stop => ∃ result, r = some result ∧ Halted config.name config.restartOnFailure result notes
  | .restart => ∃ result, r = some result ∧ Restarting config.name config.restartOnFailure result notes
  | .status => r = some (.ok ()) ∧ ∀ n ∈ notes, Watches config.name n
  | .run => ∀ n ∈ notes, Watches config.name n

end Conducts

/-! ## Stopping -/

section Stops

variable {γ S E : Type} [Background γ] {log : Cell γ (List (Note S E))}

theorem sleepUntil_spares (still : log.Still) (instant : Nat) :
    Spares log (Task.sleepUntil instant : Task γ Unit) :=
  .of_ensures fun _ => Ensures.sleepUntil still (fun _ _ h => h) instant

variable {target : StopTarget γ} {entry : E}

omit [Background γ] in
theorem kill_spares (ht : ∀ pid, Spares log (target.terminate pid).run) (pid : Nat) : Spares log (target.kill pid) := by
  unfold StopTarget.kill
  refine Writes.after_spares (ht pid) fun r => ?_
  cases r with
  | ok _ => exact .pure rfl
  | error e => exact .log_line _ _

variable (hq : Writes log target.query.run fun reply notes => notes = [.query entry reply])
  (ht : ∀ pid, Spares log (target.terminate pid).run)
include hq ht

/-- A watch calls nothing but for looks at the service. -/
theorem watch_writes (still : log.Still) (tie : Tie) (timeout deadline : Nat) (outcome : StopOutcome) (tick : Nat)
    (status : ServiceStatus) :
    Writes log (target.watch tie timeout deadline outcome tick status).run fun _ notes => Looks entry notes := by
  have ended (outcome : StopOutcome) :
      Writes log (Pure.pure outcome : Op γ StopOutcome).run fun _ notes => Looks entry notes :=
    .return_run fun _ h => absurd h List.not_mem_nil
  induction tick, status using StopTarget.watch.induct tie deadline with
  | case1 tick status stopped =>
    rw [StopTarget.watch, if_pos stopped]
    exact .log_bind _ _ (ended outcome)
  | case2 tick status going ih =>
    rw [StopTarget.watch, if_neg going]
    refine .lift_bind (sleepUntil_spares still (min tick deadline)) fun _ => .now_bind fun now => ?_
    split
    case isTrue first =>
      refine Writes.bind_run (Writes.call hq) ?_ ?_
      · rintro next _ rfl
        refine .log_bind _ _ ((ih now first next).weaken fun _ notes looks n hn => ?_)
        rcases List.mem_cons.1 hn with rfl | hn
        · exact ⟨_, rfl⟩
        · exact looks n hn
      · rintro e _ rfl n hn
        exact ⟨_, List.mem_singleton.1 hn⟩
    case isFalse =>
      refine .log_bind _ _ ?_
      exact .lift_bind (Writes.act (kill_spares ht _)) fun _ => ended .terminated

omit [Background γ] in
theorem request_writes (hc : Writes log (target.control .stop).run fun reply notes => notes = [.control entry .stop reply]) :
    Writes log target.request.run fun _ => Halting entry := by
  have looked {reply : Except ServiceError ServiceStatus} {looks : List (Note S E)} (h : Looks entry looks) :
      Halting entry (.control entry .stop reply :: looks) :=
    ⟨reply, looks, rfl, h⟩
  have unseen : Looks (S := S) entry [] := fun _ h => absurd h List.not_mem_nil
  have seen (reply : Except ServiceError ServiceStatus) : Looks (S := S) entry [.query entry reply] :=
    fun n hn => ⟨reply, List.mem_singleton.1 hn⟩
  unfold StopTarget.request
  refine hc.attempt_bind ?_
  rintro r _ rfl
  cases r with
  | ok status => exact .return_run (looked unseen)
  | error e =>
    cases he : e.isControlRejection with
    | false =>
      simp only [he, Bool.not_false, if_true]
      exact .throw_bind (looked unseen)
    | true =>
      simp only [he, Bool.not_true, Bool.false_eq_true, if_false]
      refine .log_bind _ _ (Writes.bind_run hq ?_ ?_)
      · rintro status _ rfl
        exact .lift_bind (kill_spares ht _) fun _ => .return_run (looked (seen _))
      · rintro e' _ rfl
        exact looked (seen _)

/-- **A bounded stop asks the service to stop, and then only looks at it.** -/
theorem stopAndWait_writes (still : log.Still)
    (hc : Writes log (target.control .stop).run fun reply notes => notes = [.control entry .stop reply]) (tie : Tie)
    (timeout : Nat) : Writes log (target.stopAndWait tie timeout).run fun _ => Halting entry := by
  unfold StopTarget.stopAndWait
  refine Writes.bind_run (Writes.call (request_writes hq ht hc)) ?_ ?_
  · rintro ⟨outcome, status⟩ _ ⟨reply, looks, rfl, hlooks⟩
    refine .now_bind fun now => (watch_writes hq ht still _ _ _ _ _ _).weaken fun _ notes watched => ?_
    refine ⟨reply, looks ++ notes, rfl, fun n hn => ?_⟩
    rcases List.mem_append.1 hn with hn | hn
    · exact hlooks n hn
    · exact watched n hn
  · exact fun _ _ h => h

end Stops

/-! ## The calls of a controller -/

section Controllers

variable {γ S E α : Type} [Background γ] {c : Controller γ S E} {g : Gateway γ S E} {log : Cell γ (List (Note S E))}
  (records : Records c g log)
include records

theorem query_writes (entry : E) :
    Writes log (c.gateway.query entry).run fun reply notes => notes = [.query entry reply] := by
  rw [records.gateway]
  exact noted_writes records.quiet.toLawful (records.unaware.query entry)

theorem setRecovery_writes (entry : E) (action : RecoveryAction) :
    Writes log (c.gateway.setRecovery entry action).run fun reply notes => notes = [.setRecovery entry action reply] := by
  rw [records.gateway]
  exact noted_writes records.quiet.toLawful (records.unaware.setRecovery entry action)

theorem delete_writes (entry : E) :
    Writes log (c.gateway.delete entry).run fun reply notes => notes = [.delete entry reply] := by
  rw [records.gateway]
  exact noted_writes records.quiet.toLawful (records.unaware.delete entry)

theorem openEntry_writes (session : S) (name : String) : Writes log (c.gateway.openEntry session name).run
    fun reply notes => notes = [.openEntry session name reply] := by
  rw [records.gateway]
  exact noted_writes records.quiet.toLawful (records.unaware.openEntry session name)

theorem connect_writes : Writes log c.gateway.connect.run fun reply notes => notes = [.connect reply] := by
  rw [records.gateway]
  exact noted_writes records.quiet.toLawful records.unaware.connect

theorem closeEntry_writes (entry : E) :
    Writes log (c.gateway.closeEntry entry) fun _ notes => notes = [.closeEntry entry] := by
  rw [records.gateway]
  exact giving_writes records.quiet.toLawful (records.unaware.closeEntry entry)

theorem closeSession_writes (session : S) :
    Writes log (c.gateway.closeSession session) fun _ notes => notes = [.closeSession session] := by
  rw [records.gateway]
  exact giving_writes records.quiet.toLawful (records.unaware.closeSession session)

/-! ### Sessions and entries -/

theorem withSession_writes {use : S → Call γ α} {Use : S → Except ServiceError α → List (Note S E) → Prop}
    (hu : ∀ session, Writes log (use session).run (Use session)) :
    Writes log (c.withSession use).run (Held .connect .closeSession Use) :=
  .holding (connect_writes records) (closeSession_writes records) hu

theorem holdingEntry_writes {use : E → Call γ α} (Use : E → Except ServiceError α → List (Note S E) → Prop)
    (session : S) (hu : ∀ entry, Writes log (use entry).run (Use entry)) :
    Writes log (holding (c.gateway.openEntry session c.name) c.gateway.closeEntry use).run
      (Held (.openEntry session c.name) .closeEntry Use) :=
  .holding (openEntry_writes records session c.name) (closeEntry_writes records) hu

theorem withEntry_writes {use : E → Op γ α} (Use : E → Except ServiceError α → List (Note S E) → Prop)
    (hu : ∀ entry, Writes log (use entry).run (Use entry)) :
    Writes log (c.withEntry use).run (Visiting c.name Use) := by
  unfold Controller.withEntry
  refine .holding (Writes.call (connect_writes records)) (fun s => Writes.act (closeSession_writes records s)) fun s => ?_
  exact .holding (Writes.call (openEntry_writes records s c.name)) (fun e => Writes.act (closeEntry_writes records e)) hu

/-! ### Stopping and starting -/

theorem stopEntry_writes (entry : E) :
    Writes log (c.stopEntry entry).run (Stopping c.config.restartOnFailure entry) := by
  have hcontrol : Writes log (c.gateway.control entry .stop).run
      fun reply notes => notes = [.control entry .stop reply] := by
    rw [records.gateway]
    exact noted_writes records.quiet.toLawful (records.unaware.control entry .stop)
  have htimeout : Spares log c.gateway.stopTimeout := by
    rw [records.gateway]
    exact records.unaware.stopTimeout
  have hstop (timeout : Nat) : Writes log
      (StopTarget.stopAndWait ⟨c.gateway.control entry, c.gateway.query entry, c.terminate⟩ c.tie timeout).run
      fun _ => Halting entry :=
    stopAndWait_writes (query_writes records entry) records.terminate records.quiet.toStill hcontrol c.tie timeout
  unfold Controller.stopEntry
  cases hr : c.config.restartOnFailure with
  | true =>
    rw [if_pos rfl]
    refine Writes.bind_run (Writes.call (setRecovery_writes records entry .none)) ?_ ?_
    · rintro _ _ rfl
      exact .lift_bind (Writes.act htimeout) fun timeout => (hstop timeout).weaken fun _ _ use => .set rfl use
    · rintro e _ rfl
      exact .refused rfl e
  | false =>
    rw [if_neg Bool.false_ne_true]
    exact .lift_bind (Writes.act htimeout) fun timeout => (hstop timeout).weaken fun _ _ use => .plain rfl use

theorem stop_writes : Writes log c.stop.run (Halted c.name c.config.restartOnFailure) := by
  unfold Controller.stop
  refine .log_bind _ _ (Writes.bind_run (withEntry_writes records _ (stopEntry_writes records)) ?_ ?_)
  · intro outcome notes visit
    refine .log_run _ _ ?_
    rw [List.append_nil]
    exact ⟨.ok outcome, rfl, visit⟩
  · intro e notes visit
    exact ⟨.error e, rfl, visit⟩

theorem start_writes : Writes log c.start.run (Visiting c.name (Starting c.config.restartOnFailure)) := by
  have hstart (entry : E) : Writes log (c.gateway.start entry).run fun reply notes => notes = [.start entry reply] := by
    rw [records.gateway]
    exact noted_writes records.quiet.toLawful (records.unaware.start entry)
  unfold Controller.start
  refine .log_bind _ _ (Writes.bind_run (withSession_writes records fun session =>
    holdingEntry_writes records (Starting c.config.restartOnFailure) session fun entry => ?_) ?_ ?_)
  · unfold Starting
    cases hr : c.config.restartOnFailure with
    | true =>
      rw [if_pos rfl]
      refine Writes.bind_run (setRecovery_writes records entry .restartNow) ?_ ?_
      · rintro _ _ rfl
        exact (hstart entry).weaken fun _ _ use => .set rfl use
      · rintro e _ rfl
        exact .refused rfl e
    | false =>
      rw [if_neg Bool.false_ne_true]
      exact (hstart entry).weaken fun _ _ use => .plain rfl use
  · intro _ notes visit
    refine .log_run _ _ ?_
    rw [List.append_nil]
    exact visit
  · exact fun _ _ visit => visit

theorem restart_writes : Writes log c.restart.run (Restarting c.name c.config.restartOnFailure) := by
  unfold Controller.restart
  refine Writes.bind_run (stop_writes records) ?_ fun _ _ halt => .refused halt
  intro _ first halt
  exact (Writes.call (start_writes records)).weaken fun _ _ start => .halted halt start

/-! ### Installing and uninstalling -/

theorem uninstall_writes : Writes log c.uninstall.run (Uninstalling c.name c.config.restartOnFailure) := by
  have hremove : Writes log (c.gateway.removeLogSource c.name).run
      fun reply notes => notes = [.removeLogSource c.name reply] := by
    rw [records.gateway]
    exact noted_writes records.quiet.toLawful (records.unaware.removeLogSource c.name)
  have hdelete {outcome : Except ServiceError StopOutcome} {entry : E} {halt : List (Note S E)}
      (stop : Stopping c.config.restartOnFailure entry outcome halt) :
      Writes log (liftM (c.gateway.delete entry) : Op γ Unit).run
        fun r rest => Deleting c.config.restartOnFailure entry r (halt ++ rest) := by
    refine (Writes.call (delete_writes records entry)).weaken ?_
    rintro r _ rfl
    exact ⟨outcome, halt, stop, rfl⟩
  unfold Controller.uninstall
  refine .log_bind _ _ (Writes.bind_run (withEntry_writes records (Deleting c.config.restartOnFailure) ?_) ?_ ?_)
  · intro entry
    refine (stopEntry_writes records entry).attempt_bind ?_
    intro r halt stop
    cases r with
    | ok _ => exact hdelete stop
    | error e => exact .log_bind _ _ (hdelete stop)
  · intro _ notes visit
    refine Writes.attempt_bind (Writes.call hremove) ?_
    rintro r _ rfl
    cases r with
    | ok _ => exact .log_run _ _ (.done visit)
    | error e => exact .throw (.half visit e)
  · exact fun _ _ visit => .refused visit

/-- What is done with a new entry ends well unless its log source is refused. -/
theorem registerLogSource_writes (entry : E) :
    Writes log (c.registerLogSource entry).run fun r notes => match r with
      | .ok _ => notes = [.registerLogSource c.name (.ok ())]
      | .error e => Equipping c.name c.config.restartOnFailure entry (.error e) notes := by
  have hregister : Writes log (c.gateway.registerLogSource c.name).run
      fun reply notes => notes = [.registerLogSource c.name reply] := by
    rw [records.gateway]
    exact noted_writes records.quiet.toLawful (records.unaware.registerLogSource c.name)
  unfold Controller.registerLogSource
  refine hregister.attempt_bind ?_
  rintro r _ rfl
  cases r with
  | ok _ => exact .return_run rfl
  | error e =>
    refine .log_bind _ _ ((delete_writes records entry).attempt_bind ?_)
    rintro r _ rfl
    cases r with
    | ok _ => exact .throw (.rolledBack e)
    | error rollback => exact .throw (.stuck e rollback)

theorem equip_writes (entry : E) : Writes log (do
      c.registerLogSource entry
      if c.config.restartOnFailure then
        if let .error e ← attempt (c.gateway.setRecovery entry .restartNow) then
          Act.warn s!"Failed to set restart on failure for {c.name}: {e.message}" : Call γ Unit).run
      (Equipping c.name c.config.restartOnFailure entry) := by
  refine Writes.bind_run (registerLogSource_writes records entry) ?_ fun _ _ equip => equip
  rintro _ _ rfl
  cases hr : c.config.restartOnFailure with
  | true =>
    rw [if_pos rfl]
    refine (setRecovery_writes records entry .restartNow).attempt_bind ?_
    rintro r _ rfl
    cases r with
    | ok _ => exact .return_run (.set rfl _)
    | error e => exact .log_run _ _ (.set rfl _)
  | false =>
    rw [if_neg Bool.false_ne_true]
    exact .return_run (.plain rfl)

theorem checkAbsent_writes (session : S) : Writes log (c.checkAbsent session).run fun r notes => match r with
    | .ok _ => ∃ name, notes = [.openEntry session c.name (.error (.notInstalled name))]
    | .error e => Installing c.config c.binary session (.error e) notes := by
  unfold Controller.checkAbsent
  refine (openEntry_writes records session c.name).attempt_bind ?_
  rintro r _ rfl
  cases r with
  | ok entry =>
    refine (closeEntry_writes records entry).bind_lift ?_
    rintro _ _ rfl
    exact .throw (.present entry)
  | error e =>
    cases e with
    | notInstalled name => exact .return_run ⟨name, rfl⟩
    | _ => exact .throw (.unclear nofun)

theorem install_writes : Writes log c.install.run (Held .connect .closeSession (Installing c.config c.binary)) := by
  have hcreate (session : S) (spec : ServiceSpec) : Writes log (c.gateway.create session spec).run
      fun reply notes => notes = [.create session spec reply] := by
    rw [records.gateway]
    exact noted_writes records.quiet.toLawful (records.unaware.create session spec)
  unfold Controller.install
  refine .log_bind _ _ (withSession_writes records fun session => ?_)
  refine Writes.bind_run (checkAbsent_writes records session) ?_ fun _ _ install => install
  rintro _ _ ⟨name, rfl⟩
  refine Writes.result_bind (fun spec hspec => ?_) fun e hspec => .unresolved name hspec
  refine Writes.bind_run (.holding (hcreate session spec) (closeEntry_writes records) (equip_writes records)) ?_
    fun _ _ created => .resolved name hspec created
  intro _ notes created
  refine .log_run _ _ ?_
  rw [List.append_nil]
  exact .resolved name hspec created

/-! ### Looking at the service -/

theorem status_writes : Writes log c.status fun _ notes => ∀ n ∈ notes, Watches c.name n := by
  have hlook (session : S) : Writes log (holding (c.gateway.openEntry session c.name) c.gateway.closeEntry
      c.gateway.query).run fun _ notes => ∀ n ∈ notes, Watches c.name n := by
    refine (holdingEntry_writes records _ session (query_writes records)).weaken ?_
    intro r notes held n hn
    cases held with
    | refused e =>
      rw [List.mem_singleton.1 hn]
      exact .openEntry session _
    | used entry use =>
      subst use
      simp only [List.cons_append, List.nil_append, List.mem_cons, List.not_mem_nil, or_false] at hn
      rcases hn with rfl | rfl | rfl
      · exact .openEntry session _
      · exact .query entry r
      · exact .closeEntry entry
  have hclose (session : S) (text : String) {looks : List (Note S E)} (watched : ∀ n ∈ looks, Watches c.name n) :
      Writes log (do c.gateway.closeSession session; return text : Act γ String) fun _ rest =>
        ∀ n ∈ (.connect (.ok session) :: looks) ++ rest, Watches c.name n := by
    refine (closeSession_writes records session).bind ?_
    rintro _ _ rfl
    refine .pure fun n hn => ?_
    simp only [List.append_nil, List.mem_append, List.mem_cons, List.not_mem_nil, or_false] at hn
    rcases hn with (rfl | hn) | rfl
    · exact .connect _
    · exact watched n hn
    · exact .closeSession session
  show Writes log (c.gateway.status c.config) _
  unfold Gateway.status
  refine Writes.bind (connect_writes records) ?_
  rintro r _ rfl
  cases r with
  | error e =>
    refine .pure fun n hn => ?_
    rw [List.append_nil] at hn
    rw [List.mem_singleton.1 hn]
    exact .connect _
  | ok session =>
    refine Writes.bind (hlook session) ?_
    intro found looks watched
    cases found with
    | ok status => exact hclose session _ watched
    | error e => exact Writes.after_spares (.log_line _ _) fun _ => hclose session _ watched

/-- Nothing was called since but what looks at the service. -/
def Watched (name : String) (base now : List (Note S E)) : Prop :=
  ∃ notes, now = base ++ notes ∧ ∀ n ∈ notes, Watches name n

theorem status_watches (base : List (Note S E)) :
    log.Ensures (fun σ => Watched c.name base σ.held) c.view.status fun _ σ => Watched c.name base σ.held := by
  rintro s ⟨notes, hheld, watched⟩
  obtain ⟨text, htext, rest, hrest, hwatched⟩ := status_writes records (base ++ notes) s hheld
  refine ⟨text, htext, notes ++ rest, hrest.trans (List.append_assoc _ _ _), fun n hn => ?_⟩
  rcases List.mem_append.1 hn with hn | hn
  · exact watched n hn
  · exact hwatched n hn

/-- **A run only looks at the service**, also while it waits for good. -/
theorem run_watches (base : List (Note S E)) :
    log.Keeps (fun σ => Watched c.name base σ.held) False c.run.run := by
  have timeless : Cell.Timeless fun σ : Sight (List (Note S E)) => Watched c.name base σ.held := fun _ _ h => h
  have starts := records.start _ (status_watches records base)
  have stops := records.stop _ (status_watches records base)
  have hdispatch : log.Keeps (fun σ => Watched c.name base σ.held) False
      (c.gateway.dispatch c.name ⟨c.workload, c.view, c.errors⟩).run := by
    rw [records.gateway]
    refine records.unaware.dispatch c.name _ _ fun report inbox hreport => ?_
    exact ControlLoop.run_keeps (fun r => Spares.ensures (hreport r) _) (fun _ => .update_apart records.errors _) stops
      records.quiet.toStill timeless starts False.elim
  exact Controller.run_keeps records.errors records.quiet.toStill timeless starts stops
    (Spares.ensures records.killSignal _) hdispatch False.elim

/-! ## Every operation -/

omit records [Background γ] in
/-- What a controller does when it is ordered to. -/
def execute (c : Controller γ S E) : Scenario.Order → Op γ Unit
  | .install => c.install
  | .uninstall => c.uninstall
  | .start => c.start
  | .stop => c.stop
  | .restart => c.restart
  | .run => c.run
  | .status => do let _ ← c.status

/-- **Every operation calls its gateway in the order of its conduct**, whatever is replied. -/
theorem execute_conducts (order : Scenario.Order) (s : Scene γ) : ∃ notes,
    log.get ((execute c order).run.finish s).2.world = log.get s.world ++ notes ∧
      Conducts c.config c.binary order ((execute c order).run.finish s).1 notes := by
  have ended {x : Op γ Unit} {T : Except ServiceError Unit → List (Note S E) → Prop} (hx : Writes log x.run T) :
      ∃ notes, log.get (x.run.finish s).2.world = log.get s.world ++ notes ∧
        ∃ result, (x.run.finish s).1 = some result ∧ T result notes := by
    obtain ⟨result, hresult, notes, hheld, hT⟩ := hx (log.get s.world) s rfl
    exact ⟨notes, hheld, result, hresult, hT⟩
  cases order with
  | install => exact ended (Writes.call (install_writes records))
  | uninstall => exact ended (uninstall_writes records)
  | start => exact ended (Writes.call (start_writes records))
  | stop => exact ended (stop_writes records)
  | restart => exact ended (restart_writes records)
  | status =>
    have hstatus : Writes log (execute c .status).run fun r notes => r = .ok () ∧ ∀ n ∈ notes, Watches c.name n := by
      refine (Writes.act (status_writes records)).bind_lift fun _ notes watched => .return_run ⟨rfl, ?_⟩
      rwa [List.append_nil]
    obtain ⟨notes, hheld, result, hresult, rfl, watched⟩ := ended hstatus
    exact ⟨notes, hheld, hresult, watched⟩
  | run =>
    obtain ⟨⟨notes, hheld, watched⟩, -⟩ :=
      run_watches records (log.get s.world) s ⟨[], by rw [List.append_nil]; rfl, fun _ h => absurd h List.not_mem_nil⟩
    exact ⟨notes, hheld, watched⟩

end Controllers

end ServiceControl.Recorded
