import ServiceControl.Proofs.Scripted.Conduct
import ServiceControl.Proofs.Watch
import ServiceControl.Proofs.Windows.Refusals
/-!
# What errands come to

Each errand of a controller is followed from where nothing is decided yet, and it comes to an end with an account of what
happened (`Told`).  What is refused in a session decides the error of the errand, and what is closed after it does not
change that (`Governs.withSession_tells`).  A state is told as a text, which is that of a denial just where access was
denied (`Governs.status_tells`).  Main statement: what was refused on an errand accounts for its result
(`Governs.perform_accounted`).
-/
namespace ServiceControl.Windows

open Cell (Ensures Yields Either)

/-! ## Texts of states -/

/-- What is told of the state of a service where access is denied. -/
def denialText : String := s!"Unknown: {ServiceError.permissionDenied.message}"

section Texts

theorem head?_append {s : String} {ch : Char} (h : s.toList.head? = some ch) (t : String) :
    (s ++ t).toList.head? = some ch := by
  rw [String.toList_append, List.head?_append, h]
  rfl

theorem ne_of_head? {s t : String} {a b : Char} (hs : s.toList.head? = some a) (ht : t.toList.head? = some b)
    (other : a ≠ b) : s ≠ t := by
  rintro rfl
  exact other (Option.some.inj (hs.symm.trans ht))

theorem denialText_head? : denialText.toList.head? = some 'U' := head?_append (by decide) _

theorem manager_head? (reason : String) : (ServiceError.manager reason).message.toList.head? = some 'S' :=
  head?_append (by decide) _

theorem notInstalled_head? (name : String) : (ServiceError.notInstalled name).message.toList.head? = some 'S' :=
  head?_append (head?_append (by decide) _) _

theorem unknown_ne_denialText (reason : String) : s!"Unknown: {(ServiceError.manager reason).message}" ≠ denialText := by
  intro h
  have hpermission : ServiceError.permissionDenied.message.toList.head? = some 'P' := by decide
  exact ne_of_head? (manager_head? reason) hpermission (by decide) ((String.append_right_inj _).1 h)

/-- The label of a state is a word or a number. -/
theorem label_ne_denialText (state : RuntimeState) : state.label ≠ denialText := by
  cases state with
  | other code =>
    intro h
    have hU : 'U' ∈ (toString code).toList := by
      rw [show toString code = denialText from h]
      exact List.mem_of_head? denialText_head?
    rw [Nat.toString_eq_repr, Nat.toList_repr] at hU
    exact absurd (Nat.isDigit_of_mem_toDigits (by decide) (by decide) hU) (by decide)
  | running => exact ne_of_head? (a := 'R') (by decide) denialText_head? (by decide)
  | stopped => exact ne_of_head? (a := 'S') (by decide) denialText_head? (by decide)
  | startPending => exact ne_of_head? (a := '2') (by decide) denialText_head? (by decide)
  | stopPending => exact ne_of_head? (a := 'S') (by decide) denialText_head? (by decide)

end Texts

/-- The error that a result tells of; a state is told as a text. -/
def failure? : Except ServiceError (Option String) → Option ServiceError
  | .ok none => none
  | .ok (some text) => if text = denialText then some .permissionDenied else none
  | .error e => some e

section Failure

variable {name text : String} {e : ServiceError} {log : List Event}

theorem failure?_text :
    failure? (.ok (some text)) = if text = denialText then some ServiceError.permissionDenied else none := rfl

theorem failure?_plain (h : text ≠ denialText) : failure? (.ok (some text)) = none := by rw [failure?_text, if_neg h]

/-- A session that is refused is told as the text of the state. -/
theorem Unconnected.unknown (h : Unconnected .status name e log) :
    Told .status name (failure? (.ok (some s!"Unknown: {e.message}"))) log := by
  cases h with
  | denied clean denies =>
    show Told .status name (failure? (.ok (some denialText))) _
    rw [failure?_text, if_pos rfl]
    exact clean.decides (verdict?_denied.2 denies)
  | failed clean reason =>
    rw [failure?_plain (unknown_ne_denialText reason)]
    exact clean.succeeds

theorem Unopened.message_ne (h : Unopened .status name e log) : e.message ≠ denialText := by
  cases h with
  | missed _ _ => exact ne_of_head? (notInstalled_head? name) denialText_head? (by decide)
  | failed _ reason => exact ne_of_head? (manager_head? reason) denialText_head? (by decide)

end Failure

namespace Governs

open Lookout

variable {γ κ α : Type} [Background γ] {c : Controller γ Handle Handle} {o : Lookout γ κ} (governs : Governs c o)
  {d : Desk κ} {errand : Errand} {m h : Handle}
include governs

/-! ### Stopping -/

theorem kill_seen {target : StopTarget γ} (terminates : target.terminate = c.terminate) (status : ServiceStatus) :
    o.place.Ensures (o.since d (Seen errand c.name h status)) (target.kill status.processId) fun _ =>
      o.since d (Clean errand c.name) := by
  refine StopTarget.kill_ensures ?_
  rw [terminates]
  exact governs.terminate_since status.processId fun log seen => seen.ended

theorem request_tells :
    o.place.Yields (o.since d (Clean errand c.name))
      (StopTarget.request ⟨control o.cell h, query o.cell h, c.terminate⟩)
      (o.ends d (Clean errand c.name) (Halted errand c.name)) := by
  unfold StopTarget.request
  refine Yields.attempt_bind (control_tells governs.toClear) fun r => ?_
  cases r with
  | ok status => exact .pure fun _ hσ => hσ
  | error e =>
    -- only a control that was rejected is looked into
    unfold sent Either
    cases he : e.isControlRejection with
    | false =>
      simp only [he, Bool.not_false, if_true]
      exact .throw_bind fun _ hσ => hσ
    | true =>
      simp only [he, Bool.not_true, Bool.false_eq_true, if_false]
      refine (Yields.log _ _).bind_ok fun _ => (query_rejected governs.toClear).bind (fun status => ?_) fun _ _ hσ => hσ
      exact (Yields.lift (kill_seen governs rfl status)).bind_ok fun _ => .pure fun _ hσ => hσ

theorem stopAndWait_tells (timeout : Nat) :
    o.place.Yields (o.since d (Clean errand c.name))
      (StopTarget.stopAndWait ⟨control o.cell h, query o.cell h, c.terminate⟩ c.tie timeout)
      (o.ends d (Clean errand c.name) (Halted errand c.name)) := by
  have hterminate (pid : Nat) : o.place.Yields (o.since d (Clean errand c.name)) (c.terminate pid) fun _ =>
      o.since d (Clean errand c.name) :=
    governs.terminate_since pid fun log hlog => hlog.snoc (verdict?_none rfl rfl rfl) (by simp [refusedStop])
  unfold StopTarget.stopAndWait
  refine (Yields.call (request_tells governs)).bind (fun r => ?_) fun _ _ hσ => hσ
  refine Yields.now_any.bind_ok fun now => ?_
  -- each look keeps nothing decided, and so does the end of the process when the time is over
  refine (StopTarget.watch_either hterminate governs.still timeless_since _ (query_tells governs.toClear) _ _ _ _
    _ _).weaken fun r σ hσ => ?_
  cases r with
  | ok outcome => exact hσ
  | error e => exact halted_of_bluntly hσ

theorem stopEntry_tells :
    o.place.Yields (o.since d (Clean errand c.name)) (c.stopEntry h)
      (o.ends d (Clean errand c.name) (Halted errand c.name)) := by
  have htimeout : o.place.Ensures (o.since d (Clean errand c.name)) (stopTimeout o.cell) fun _ =>
      o.since d (Clean errand c.name) :=
    (keys_last governs.toClear clean_lasting).stopTimeout_ensures
  unfold Controller.stopEntry
  rw [governs.gateway]
  split
  · refine (Yields.call (setRecovery_lasts governs.toClear clean_lasting h .none)).bind (fun _ => ?_)
      fun _ _ => halted_of_bluntly
    exact (Yields.act htimeout).bind_ok (stopAndWait_tells governs)
  · exact (Yields.act htimeout).bind_ok (stopAndWait_tells governs)

/-! ### Sessions -/

theorem openEntry_tells (other : errand ≠ .install) (told : errand ≠ .status) :
    o.place.Yields (o.since d (Clean errand c.name)) (openService o.cell m c.name)
      (o.ends d (Clean errand c.name) (Inside errand c.name)) :=
  (openService_tells governs.toClear m).weaken
    (ends_mono (fun _ opened => opened.clean other) fun _ _ unopened => unopened.inside other told)

section Sessions

variable {Φ : List Event → Prop} (lasting : Lasting Φ)
include lasting

/-- What is closed after a use tells no more of it. -/
theorem close_tells {Ξ : ServiceError → List Event → Prop} (failing : ∀ e, Lasting (Ξ e)) (handle : Handle)
    (r : Except ServiceError α) :
    o.place.Ensures (o.ends d Φ Ξ r) (closeHandle o.cell handle) fun _ => o.ends d Φ Ξ r := by
  cases r with
  | ok _ => exact closeHandle_lasts governs.toClear lasting handle
  | error e => exact closeHandle_lasts governs.toClear (failing e) handle

theorem withSession_tells {use : Handle → ServiceControl.Call γ α}
    (hu : ∀ m, o.place.Yields (o.since d (Clean errand c.name)) (use m) (o.ends d Φ (Inside errand c.name))) :
    o.place.Yields (o.since d (Clean errand c.name)) (c.withSession use) (o.ends d Φ (Told errand c.name ∘ some)) := by
  unfold Controller.withSession
  rw [governs.gateway]
  refine (connect_tells governs.toClear).holding (fun _ => since_mono fun _ => Unconnected.told) hu fun m r => ?_
  refine (close_tells governs lasting (fun _ => inside_lasting) m r).weaken fun _ => ?_
  exact ends_mono (fun _ h => h) (fun _ _ => Inside.told) r

theorem withEntry_tells (other : errand ≠ .install) (told : errand ≠ .status) {use : Handle → Op γ α}
    (hu : ∀ h, o.place.Yields (o.since d (Clean errand c.name)) (use h) (o.ends d Φ (Inside errand c.name))) :
    o.place.Yields (o.since d (Clean errand c.name)) (c.withEntry use) (o.ends d Φ (Told errand c.name ∘ some)) := by
  unfold Controller.withEntry
  rw [governs.gateway]
  refine (Yields.call (connect_tells governs.toClear)).holding (U := fun _ => o.ends d Φ (Inside errand c.name))
    (fun _ => since_mono fun _ => Unconnected.told) (fun m => ?_) fun m r => ?_
  · refine (Yields.call (openEntry_tells governs other told)).holding (fun _ _ hσ => hσ) hu fun h r => ?_
    exact Ensures.act (close_tells governs lasting (fun _ => inside_lasting) h r)
  · refine Ensures.act ((close_tells governs lasting (fun _ => inside_lasting) m r).weaken fun _ => ?_)
    exact ends_mono (fun _ h => h) (fun _ _ => Inside.told) r

end Sessions

/-! ### Starting and stopping -/

theorem start_tells (other : errand ≠ .install) (told : errand ≠ .status) :
    o.place.Yields (o.since d (Clean errand c.name)) c.start
      (o.ends d (Clean errand c.name) (Told errand c.name ∘ some)) := by
  have hclean : Lasting (Clean errand c.name) := clean_lasting
  have hset (h : Handle) := setRecovery_lasts (d := d) governs.toClear hclean h .restartNow
  have hstart (h : Handle) := start_lasts (d := d) governs.toClear hclean h
  unfold Controller.start
  refine (Yields.log _ _).bind_ok fun _ => (withSession_tells governs clean_lasting fun m => ?_).bind
    (fun _ => (Yields.log _ _).of_succeeds fun _ _ hσ => hσ) fun _ _ hσ => hσ
  rw [governs.gateway]
  refine (openEntry_tells governs other told).holding (fun _ _ hσ => hσ) (fun h => ?_)
    fun h r => close_tells governs clean_lasting (fun _ => inside_lasting) h r
  split
  · refine (hset h).bind (fun _ => (hstart h).weaken inside_of_bluntly) fun _ _ => inside_of_bluntly _ _
  · exact (hstart h).weaken inside_of_bluntly

theorem stop_tells (other : errand ≠ .install) (told : errand ≠ .status) :
    o.place.Yields (o.since d (Clean errand c.name)) c.stop
      (o.ends d (Clean errand c.name) (Told errand c.name ∘ some)) := by
  unfold Controller.stop
  refine (Yields.log _ _).bind_ok fun _ => (withEntry_tells governs clean_lasting other told fun h => ?_).bind
    (fun _ => (Yields.log _ _).of_succeeds fun _ _ hσ => hσ) fun _ _ hσ => hσ
  refine (stopEntry_tells governs).weaken fun r σ hσ => ?_
  cases r with
  | ok outcome => exact hσ
  | error e => exact since_mono (fun _ => Halted.inside) σ hσ

theorem restart_tells (other : errand ≠ .install) (told : errand ≠ .status) :
    o.place.Yields (o.since d (Clean errand c.name)) c.restart
      (o.ends d (Clean errand c.name) (Told errand c.name ∘ some)) := by
  unfold Controller.restart
  exact (stop_tells governs other told).bind (fun _ => Yields.call (start_tells governs other told)) fun _ _ hσ => hσ

/-! ### Uninstalling -/

theorem uninstall_tells :
    o.place.Yields (o.since d (Clean .uninstall c.name)) c.uninstall
      (o.ends d (Calm .uninstall c.name) (Told .uninstall c.name ∘ some)) := by
  have other : Errand.uninstall ≠ .install := nofun
  have told : Errand.uninstall ≠ .status := nofun
  have hdeleted : Lasting (Deleted c.name) := deleted_lasting
  have hdelete (h : Handle) : o.place.Yields (o.since d (Calm .uninstall c.name)) (delete o.cell h)
      (o.ends d (Deleted c.name) (Inside .uninstall c.name)) := by
    refine (delete_lasts governs.toClear calm_lasting h).weaken fun r σ hσ => ?_
    cases r with
    | ok _ => exact since_mono (fun _ ⟨calm, deleted⟩ => ⟨calm, deleted⟩) σ hσ
    | error e =>
      obtain ⟨⟨reason, rfl⟩, hσ⟩ := hσ
      exact since_mono (fun _ calm => ⟨calm.uninstalls (.otherwise reason) rfl, nofun⟩) σ hσ
  have hremove : o.place.Yields (o.since d (Deleted c.name)) (removeLogSource o.cell c.name)
      (Bluntly (o.since d (Deleted c.name))) :=
    (keys_last governs.toClear hdeleted).removeLogSource_bluntly c.name
  unfold Controller.uninstall
  rw [governs.gateway]
  refine (Yields.log _ _).bind_ok fun _ => (withEntry_tells governs hdeleted other told fun h => ?_).bind
    (fun _ => ?_) fun _ _ hσ => hσ
  · -- the service is deleted whether it was stopped or not, so that a stop that failed decides nothing
    refine (stopEntry_tells governs).attempt_bind fun r => ?_
    cases r with
    | ok outcome => exact Ensures.strengthen (Yields.call (hdelete h)) (since_mono fun _ => Clean.calm)
    | error e =>
      refine (Yields.log _ _).bind_ok fun _ => ?_
      exact Ensures.strengthen (Yields.call (hdelete h)) (since_mono fun _ => Halted.toCalm)
  · refine Yields.attempt_bind (Yields.call hremove) fun r => ?_
    cases r with
    | ok _ => exact (Yields.log _ _).of_succeeds fun _ σ hσ => since_mono (fun _ => Deleted.toCalm) σ hσ
    | error e =>
      refine .throw fun σ hσ => since_mono (fun _ deleted => ?_) σ hσ.2
      exact deleted.uninstalls (.sourced rfl deleted.deleted e.message) rfl

/-! ### Installing -/

theorem checkAbsent_tells :
    o.place.Yields (o.since d (Clean .install c.name)) (c.checkAbsent m)
      (o.ends d (Clean .install c.name) (Inside .install c.name)) := by
  unfold Controller.checkAbsent
  rw [governs.gateway]
  refine Yields.attempt_bind (openService_tells governs.toClear m) fun r => ?_
  cases r with
  | ok h =>
    have hpresent : Lasting (Inside .install c.name (.alreadyExists c.name)) := inside_lasting
    have hclose := closeHandle_lasts (d := d) governs.toClear hpresent h
    refine (Yields.lift (hclose.strengthen (since_mono fun _ => Opened.present))).bind_ok fun _ => ?_
    exact .throw fun _ hσ => hσ
  | error e =>
    rintro s ⟨log, trail, unopened⟩
    have clean := unopened.clean (.inl rfl)
    cases unopened with
    | missed _ _ =>
      exact (Yields.pure fun _ hσ => hσ : o.place.Yields (o.since d (Clean .install c.name)) _ _) s ⟨_, trail, clean⟩
    | failed _ reason =>
      exact (Yields.throw (since_mono fun _ => Clean.refused) :
        o.place.Yields (o.since d (Clean .install c.name)) _ _) s ⟨_, trail, clean⟩

theorem sourceEntry_tells :
    o.place.Yields (o.since d (Created c.name)) (c.registerLogSource h)
      (o.ends d (Created c.name) (Inside .install c.name)) := by
  have hregister : o.place.Yields (o.since d (Created c.name)) (registerLogSource o.cell c.name)
      (Bluntly (o.since d (Created c.name))) :=
    (keys_last governs.toClear created_lasting).registerLogSource_bluntly c.name
  unfold Controller.registerLogSource
  rw [governs.gateway]
  refine hregister.attempt_bind fun r => ?_
  cases r with
  | ok _ => exact .pure fun _ hσ => hσ
  | error e =>
    refine (Yields.log _ _).bind_ok fun _ => ?_
    refine Ensures.strengthen (Yields.attempt_bind (delete_lasts governs.toClear created_lasting h) fun r => ?_)
      fun _ hσ => hσ.2
    cases r with
    | ok _ =>
      refine .throw (since_mono fun _ ⟨created, _⟩ => ⟨?_, nofun⟩)
      exact created.fails (.unsourced rfl created.created e.message) rfl
    | error rollback =>
      refine .throw fun σ hσ => since_mono (fun _ created => ⟨?_, nofun⟩) σ hσ.2
      exact created.fails (.stuck rfl created.created e.message rollback.message) rfl

theorem install_tells :
    o.place.Yields (o.since d (Clean .install c.name)) c.install
      (o.ends d (Clean .install c.name) (Told .install c.name ∘ some)) := by
  have hset (h : Handle) : o.place.Yields (o.since d (Created c.name)) (setRecovery o.cell h .restartNow)
      (Bluntly (o.since d (Created c.name))) :=
    setRecovery_lasts governs.toClear created_lasting h .restartNow
  unfold Controller.install
  refine (Yields.log _ _).bind_ok fun _ => withSession_tells governs clean_lasting fun m => ?_
  refine (checkAbsent_tells governs).bind (fun _ => .result_bind (fun spec resolved => ?_) fun e unresolved σ hσ => ?_)
    fun _ _ hσ => hσ
  · rw [governs.gateway]
    refine Yields.bind (R := o.ends d (Created c.name) (Inside .install c.name)) ?_ (fun _ => ?_) fun _ _ hσ => hσ
    · refine (createService_tells governs.toClear m (ServiceSpec.name_ofConfig resolved)).holding (fun _ _ hσ => hσ)
        (fun h => ?_) fun h r => close_tells governs created_lasting (fun _ => inside_lasting) h r
      refine (sourceEntry_tells governs).bind (fun _ => ?_) fun _ _ hσ => hσ
      split
      · refine (hset h).attempt_bind fun r => ?_
        cases r with
        | ok _ => exact .pure fun _ hσ => hσ
        | error e => exact (Yields.log _ _).of_succeeds fun _ _ hσ => hσ.2
      · exact .pure fun _ hσ => hσ
    · exact (Yields.log _ _).of_succeeds fun _ σ hσ => since_mono (fun _ => Created.toClean) σ hσ
  · obtain ⟨reason, rfl⟩ := ServiceSpec.error_ofConfig unresolved
    exact since_mono (fun _ => Clean.refused) σ hσ

/-! ### Telling the state -/

theorem status_tells :
    o.place.Ensures (o.since d (Clean .status c.name)) c.status
      fun text => o.since d (Told .status c.name (failure? (.ok (some text)))) := by
  let Untold (e : ServiceError) (log : List Event) := e.message ≠ denialText ∧ Clean .status c.name log
  have untold_lasting (e : ServiceError) : Lasting (Untold e) := fun log ev h plain => ⟨h.1, h.2.plain plain⟩
  have hlook (m : Handle) : o.place.Yields (o.since d (Clean .status c.name))
      (holding (openService o.cell m c.name) (closeHandle o.cell) (query o.cell))
      (o.ends d (Clean .status c.name) Untold) := by
    refine (openService_tells governs.toClear m).holding
      (fun e => since_mono fun log h => ⟨h.message_ne, h.clean (.inr rfl)⟩) (fun h => ?_)
      fun h r => close_tells governs clean_lasting untold_lasting h r
    refine Ensures.strengthen ((query_tells governs.toClear).weaken fun r σ hσ => ?_)
      (since_mono fun _ opened => opened.clean nofun)
    cases r with
    | ok status => exact hσ
    | error e =>
      obtain ⟨⟨reason, rfl⟩, hσ⟩ := hσ
      exact since_mono (fun _ clean => ⟨ne_of_head? (manager_head? reason) denialText_head? (by decide), clean⟩) σ hσ
  unfold Controller.status
  refine Gateway.status_ensures (R := fun _ => o.since d (Clean .status c.name))
    (L := fun _ text => o.since d fun log => text ≠ denialText ∧ Clean .status c.name log) ?_ (fun m => ?_)
    fun m text => ?_
  · rw [governs.gateway]
    exact (connect_tells governs.toClear).weaken fun r σ hσ => by
      cases r with
      | ok m => exact hσ
      | error e => exact since_mono (fun _ => Unconnected.unknown) σ hσ
  · rw [governs.gateway]
    refine (hlook m).weaken fun r σ hσ => ?_
    cases r with
    | ok status => exact since_mono (fun _ clean => ⟨label_ne_denialText status.state, clean⟩) σ hσ
    | error e => exact hσ
  · rw [governs.gateway]
    have hclose := closeHandle_lasts (o := o) (d := d) (Φ := fun log => text ≠ denialText ∧ Clean .status c.name log)
      governs.toClear (fun log ev h plain => ⟨h.1, h.2.plain plain⟩) m
    refine hclose.weaken fun _ => since_mono fun log ⟨other, clean⟩ => ?_
    rw [failure?_plain other]
    exact clean.succeeds

/-! ### Any errand -/

theorem perform_tells (errand : Errand) :
    o.place.Yields (o.since d (Clean errand c.name)) (c.perform errand) fun r =>
      o.since d (Told errand c.name (failure? r)) := by
  have done {x : Op γ Unit} {Φ : List Event → Prop} (succeeds : ∀ log, Φ log → Told errand c.name none log)
      (hx : o.place.Yields (o.since d (Clean errand c.name)) x (o.ends d Φ (Told errand c.name ∘ some))) :
      o.place.Yields (o.since d (Clean errand c.name)) (do x; return (none : Option String)) fun r =>
        o.since d (Told errand c.name (failure? r)) :=
    hx.bind (fun _ => .pure (since_mono succeeds)) fun _ _ hσ => hσ
  cases errand with
  | install => exact done (fun _ => Clean.succeeds) (Yields.call (install_tells governs))
  | uninstall =>
    refine done (fun _ calm => ?_) (uninstall_tells governs)
    exact calm.told nofun nofun fun other => absurd rfl other
  | start => exact done (fun _ => Clean.succeeds) (Yields.call (start_tells governs nofun nofun))
  | stop => exact done (fun _ => Clean.succeeds) (stop_tells governs nofun nofun)
  | restart => exact done (fun _ => Clean.succeeds) (restart_tells governs nofun nofun)
  | status => exact (Yields.act (status_tells governs)).bind_ok fun _ => .pure fun _ hσ => hσ

end Governs

/-! ## What an errand comes to -/

/-- **What the result of an errand has to do with what happened on it.**  A denial ends it, a service that is missed or
found decides it, its other errors are of the manager or follow what was created or deleted, and a stop that was refused
goes on only if the service rejected it and its status was told. -/
structure Accounted (errand : Errand) (name : String) (r : Except ServiceError (Option String)) (log : List Event) :
    Prop where
  denied : (r = .error .permissionDenied ∨ r = .ok (some denialText)) ↔ ∃ ev ∈ log, ev.denies = true
  last : ∀ past ev rest, log = past ++ ev :: rest → ev.denies = true → rest = []
  missing : errand ≠ .install → errand ≠ .status → (r = .error (.notInstalled name) ↔ ∃ ev ∈ log, ev.misses = true)
  present : errand = .install → (r = .error (.alreadyExists name) ↔ ∃ ev ∈ log, ev.finds = true)
  arises : ∀ e, r = .error e → Arises errand name log e
  followed : AfterRefusal Followed log
  /-- An uninstall goes on without the stop. -/
  answered : errand ≠ .uninstall → AfterRefusal Answered log ∨ ∃ reason, r = .error (.manager reason)

section Account

variable {errand : Errand} {name : String} {r : Except ServiceError (Option String)} {log : List Event}
  {failure : Option ServiceError} {e : ServiceError}

theorem failure?_eq_some :
    failure? r = some e ↔ r = .error e ∨ e = .permissionDenied ∧ r = .ok (some denialText) := by
  cases r with
  | error e' => simp [failure?]
  | ok told =>
    cases told with
    | none => simp [failure?]
    | some text =>
      rw [failure?_text]
      by_cases h : text = denialText
      · simp [h, eq_comm]
      · simp [h]

/-- What is told of in no text is an error. -/
theorem failure?_error (other : e ≠ .permissionDenied) : failure? r = some e ↔ r = .error e := by
  simp [failure?_eq_some, other]

/-- A program fails as an exchange decides just if one does. -/
theorem Told.decides (h : Told errand name failure log) (verdict : isVerdict e = true) :
    failure = some e ↔ ∃ ev ∈ log, verdict? errand name ev = some e := by
  have hverdicts : e ∈ verdicts errand name log ↔ failure = some e := by
    rw [h.decided, Option.mem_toList, Option.filter_eq_some_iff]
    exact and_iff_left verdict
  rw [← hverdicts]
  exact List.mem_filterMap

theorem Told.denied (h : Told errand name failure log) :
    failure = some .permissionDenied ↔ ∃ ev ∈ log, ev.denies = true := by
  rw [h.decides rfl]
  simp only [verdict?_denied]

theorem Told.last_denied (h : Told errand name failure log) {past rest : List Event} {ev : Event}
    (hlog : log = past ++ ev :: rest) (denies : ev.denies = true) : rest = [] := by
  refine Decidable.byContradiction fun more => ?_
  have hdropped : ev ∈ log.dropLast := by
    rw [hlog, List.dropLast_append_of_ne_nil (List.cons_ne_nil _ _), List.dropLast_cons_of_ne_nil more]
    exact List.mem_append_right _ List.mem_cons_self
  have hdenied : failure = some .permissionDenied :=
    h.denied.2 ⟨ev, hlog ▸ List.mem_append_right _ List.mem_cons_self, denies⟩
  have hverdict : ServiceError.permissionDenied ∈ verdicts errand name log.dropLast :=
    List.mem_filterMap.2 ⟨ev, hdropped, verdict?_denied.2 denies⟩
  rw [h.last hdenied] at hverdict
  cases hverdict

theorem Told.accounted (h : Told errand name (failure? r) log) : Accounted errand name r log where
  denied := by
    rw [← h.denied, failure?_eq_some]
    simp
  last _ _ _ := h.last_denied
  missing other told := by
    rw [← failure?_error (e := .notInstalled name) nofun, h.decides rfl]
    simp only [verdict?_missing other told]
  present installs := by
    subst installs
    rw [← failure?_error (e := .alreadyExists name) nofun, h.decides rfl]
    simp only [verdict?_present]
  arises e he := h.arises e (failure?_eq_some.2 (.inl he))
  followed := h.followed
  answered other := by
    obtain answered | ⟨reason, hreason⟩ := h.answered other
    · exact .inl answered
    · exact .inr ⟨reason, (failure?_error (e := .manager reason) nofun).1 hreason⟩

theorem clean_nil : Clean errand name [] where
  decided := rfl
  answered _ _ _ _ _ h := absurd h.symm (List.append_ne_nil_of_right_ne_nil _ (List.cons_ne_nil _ _))

end Account

/-- **Whatever Windows replies, an errand comes to its end, and what was refused on it accounts for its result.** -/
theorem Governs.perform_accounted {γ κ : Type} [Background γ] {c : Controller γ Handle Handle} {o : Lookout γ κ}
    (governs : Governs c o) (errand : Errand) (s : Scene γ) :
    let ran := (c.perform errand).run.finish s
    let before := o.place.get s.world
    let after := o.place.get ran.2.world
    ∃ r log, ran.1 = some r ∧ Trail (Desk.Meets o.mark) before log after ∧
      after.machine.calls = (calls log).reverse ++ before.machine.calls ∧
      after.work = (log.filterMap Event.pid?).foldl (fun work pid => o.mark pid work) before.work ∧
      Accounted errand c.name r log := by
  intro ran before after
  obtain ⟨r, hr, log, trail, told⟩ := governs.perform_tells (d := before) errand s ⟨[], .nil _, clean_nil⟩
  exact ⟨r, log, hr, trail, (trail_kept trail).1, (trail_kept trail).2, told.accounted⟩

open Scenario.Win32 (lookout) in
/-- The service rejects the stop and its process is ended; when it is to be started again it is gone. -/
theorem perform_accounted_gone :
    let role : Scenario.Role := { config := { name := "svcA" } }
    let c := role.controller 0 Scenario.Win32.gateway Scenario.Win32.terminate (.ok "svcA.exe")
    let s : Scene Scenario.Win32.World := { world := { manager := { windows := { replies := fun
      | .openService => [.succeeds, .fails Code.serviceDoesNotExist]
      | .controlService => [.fails Code.cannotAcceptControl]
      | .queryStatus => [.status 4 77, .status 1 0]
      | _ => [] } } } }
    Governs c lookout ∧ ∃ r log, ((c.perform .restart).run.finish s).1 = some r ∧ Accounted .restart "svcA" r log ∧
      r = .error (.notInstalled "svcA") ∧ (∃ ev ∈ log, ev.misses = true) ∧
      (log.filterMap Event.pid?).reverse = [77] := by
  intro role c s
  have governs : Governs c lookout := Scenario.Win32.governs rfl _
  obtain ⟨r, log, ended, -, -, hwork, accounted⟩ := governs.perform_accounted .restart s
  have hfailure : ((c.perform .restart).run.finish s).1.map failure? = some (some (.notInstalled "svcA")) := by
    decide +kernel
  have hended : (lookout.place.get ((c.perform .restart).run.finish s).2.world).work = [77] := by decide +kernel
  rw [ended] at hfailure
  have hr : r = .error (.notInstalled "svcA") :=
    (failure?_error (e := .notInstalled "svcA") nofun).1 (Option.some.inj hfailure)
  refine ⟨governs, r, log, ended, accounted, hr, (accounted.missing nofun nofun).1 hr, ?_⟩
  rw [← hended, hwork]
  exact (List.foldl_flip_cons_eq_append'.trans (List.append_nil _)).symm

end ServiceControl.Windows
