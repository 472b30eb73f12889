import ServiceControl.Proofs.Windows.Verdicts
/-!
# Refusals of Windows

What each use of Windows tells when it is refused.  Where nothing is decided yet (`Clean`), a session or an entry that is
refused decides the error (`Unconnected`, `Unopened`), and a stop that is rejected leaves it to a look at the service
whether the stop goes on (`Rejected`, `Seen`, `Halted`).
-/
namespace ServiceControl.Windows

open Cell (Ensures Yields Either)

/-- A program that is used within a session fails with this error. -/
structure Inside (errand : Errand) (name : String) (e : ServiceError) (log : List Event) : Prop where
  told : Told errand name (some e) log
  admitted : e ≠ .permissionDenied

/-- The manager grants no session. -/
inductive Unconnected (errand : Errand) (name : String) : ServiceError → List Event → Prop
  | denied {past : List Event} {ev : Event} (clean : Clean errand name past) (denies : ev.denies = true) :
      Unconnected errand name .permissionDenied (past ++ [ev])
  | failed {log : List Event} (clean : Clean errand name log) (reason : String) :
      Unconnected errand name (.manager reason) log

/-- The service has just been found. -/
def Opened (errand : Errand) (name : String) (log : List Event) : Prop :=
  ∃ past ev, log = past ++ [ev] ∧ Clean errand name past ∧ ev.finds = true

/-- The service is missing, or it cannot be told whether it is. -/
inductive Unopened (errand : Errand) (name : String) : ServiceError → List Event → Prop
  | missed {past : List Event} {ev : Event} (clean : Clean errand name past) (misses : ev.misses = true) :
      Unopened errand name (.notInstalled name) (past ++ [ev])
  | failed {log : List Event} (clean : Clean errand name log) (reason : String) :
      Unopened errand name (.manager reason) log

/-- A service was created, and nothing is decided. -/
structure Created (name : String) (log : List Event) : Prop extends Clean .install name log where
  created : ∃ ev ∈ log, ev.creates = true

/-- A service was deleted, and nothing is decided. -/
structure Deleted (name : String) (log : List Event) : Prop extends Calm .uninstall name log where
  deleted : ∃ ev ∈ log, ev.deletes = true

/-- A stop has failed with an error of the manager. -/
structure Halted (errand : Errand) (name : String) (e : ServiceError) (log : List Event) : Prop extends
    Calm errand name log where
  manager : ∃ reason, e = .manager reason

/-- The service has just rejected a stop. -/
def Rejected (errand : Errand) (name : String) (service : Handle) (log : List Event) : Prop :=
  ∃ past code, log = past ++ [refusedStop service code none] ∧ Clean errand name past ∧ Rejects code

/-- The service has rejected a stop, and its status is told. -/
def Seen (errand : Errand) (name : String) (service : Handle) (status : ServiceStatus) (log : List Event) : Prop :=
  ∃ past code reply, log = past ++ [refusedStop service code none, .exchange ⟨.queryStatus service, reply, none⟩] ∧
    Clean errand name past ∧ Rejects code ∧ reply.tells = .ok status

/-- Plain events do not matter for this. -/
def Lasting (Φ : List Event → Prop) : Prop := ∀ log ev, Φ log → ev.isPlain = true → Φ (log ++ [ev])

section Lasting

variable {errand : Errand} {name : String} {e : ServiceError} {log : List Event} {reason : String}

theorem exists_snoc {p : Event → Bool} {ev : Event} (h : ∃ ev ∈ log, p ev = true) :
    ∃ ev' ∈ log ++ [ev], p ev' = true := by
  obtain ⟨ev, hev, hp⟩ := h
  exact ⟨ev, List.mem_append_left _ hev, hp⟩

theorem clean_lasting : Lasting (Clean errand name) := fun _ _ h => h.plain

theorem calm_lasting : Lasting (Calm errand name) := fun _ _ h => h.plain

theorem created_lasting : Lasting (Created name) := fun _ _ h plain => ⟨h.toClean.plain plain, exists_snoc h.created⟩

theorem deleted_lasting : Lasting (Deleted name) := fun _ _ h plain => ⟨h.toCalm.plain plain, exists_snoc h.deleted⟩

theorem inside_lasting : Lasting (Inside errand name e) := fun _ _ h plain =>
  ⟨h.told.plain (fun denied => h.admitted (Option.some.inj denied)) plain, h.admitted⟩

/-- An error of the manager tells nothing of what was decided. -/
theorem Clean.refused (h : Clean errand name log) : Inside errand name (.manager reason) log :=
  ⟨h.fails (.otherwise reason) rfl, nofun⟩

/-- To uninstall a service it need not have stopped. -/
theorem Calm.uninstalls (h : Calm .uninstall name log) (arises : Arises .uninstall name log e)
    (undecided : isVerdict e = false) : Told .uninstall name (some e) log := by
  refine h.told ?_ ?_ fun other => absurd rfl other
  · intro e he
    exact Option.some.inj he ▸ arises
  · intro e he
    exact Option.some.inj he ▸ undecided

theorem Unconnected.told (h : Unconnected errand name e log) : Told errand name (some e) log := by
  cases h with
  | denied clean denies => exact clean.decides (verdict?_denied.2 denies)
  | failed clean reason => exact clean.fails (.otherwise reason) rfl

theorem Opened.clean (h : Opened errand name log) (other : errand ≠ .install) : Clean errand name log := by
  obtain ⟨past, ev, rfl, clean, finds⟩ := h
  exact clean.snoc (verdict?_other other (not_denies (.inr finds)) (not_misses finds))
    (not_refusedStop finds fun _ _ _ => rfl)

theorem Opened.present (h : Opened .install name log) : Inside .install name (.alreadyExists name) log := by
  obtain ⟨past, ev, rfl, clean, finds⟩ := h
  exact ⟨clean.decides (verdict?_present.2 finds), nofun⟩

theorem Unopened.inside (h : Unopened errand name e log) (other : errand ≠ .install) (told : errand ≠ .status) :
    Inside errand name e log := by
  cases h with
  | missed clean misses => exact ⟨clean.decides ((verdict?_missing other told).2 misses), nofun⟩
  | failed clean reason => exact clean.refused

/-- An install, and one who asks for the state, can do without the service. -/
theorem Unopened.clean (h : Unopened errand name e log) (needless : errand = .install ∨ errand = .status) :
    Clean errand name log := by
  cases h with
  | missed clean misses =>
    refine clean.snoc ?_ (not_refusedStop misses fun _ _ _ => rfl)
    have hdenies := not_denies (.inl misses)
    rcases needless with rfl | rfl
    · exact verdict?_installing hdenies (not_finds misses)
    · exact verdict?_telling hdenies
  | failed clean reason => exact clean

theorem Clean.halted (h : Clean errand name log) : Halted errand name (.manager reason) log := ⟨h.calm, _, rfl⟩

theorem Halted.inside (h : Halted errand name e log) : Inside errand name e log := by
  obtain ⟨reason, rfl⟩ := h.manager
  refine ⟨h.toCalm.told ?_ ?_ fun _ => .inr ⟨reason, rfl⟩, nofun⟩
  · intro e he
    obtain rfl := Option.some.inj he
    exact .otherwise reason
  · intro e he
    obtain rfl := Option.some.inj he
    rfl

end Lasting

section Rejection

variable {errand : Errand} {name : String} {service : Handle} {log past : List Event} {code : Nat}

theorem verdicts_rejected {seg : List Event} (h : Clean errand name past)
    (idle : ∀ ev ∈ seg, verdict? errand name ev = none) :
    verdicts errand name (past ++ refusedStop service code none :: seg) = [] := by
  have hseg : verdicts errand name (refusedStop service code none :: seg) = [] := by
    refine List.filterMap_eq_nil_iff.2 fun ev hev => ?_
    cases hev with
    | head => exact verdict?_none rfl rfl rfl
    | tail _ hev => exact idle ev hev
  rw [verdicts_append, h.decided, hseg]
  rfl

/-- A stop that is refused and not rejected has failed. -/
theorem Clean.unanswered (h : Clean errand name past) (reason : String) (other : ¬Rejects code) :
    Halted errand name (.manager reason) (past ++ [refusedStop service code none]) where
  decided := verdicts_rejected h nofun
  followed := by
    refine h.answered.refused none (fun _ _ _ => followed_of_answered) ?_ nofun
    unfold Followed
    rw [if_neg other]
    exact nofun
  manager := ⟨reason, rfl⟩

/-- A service whose status is not told is left alone. -/
theorem Rejected.unseen {reply : Reply} {fault : Fault} (h : Rejected errand name service log)
    (untold : reply.tells = .error fault) (reason : String) :
    Halted errand name (.manager reason) (log ++ [.exchange ⟨.queryStatus service, reply, none⟩]) := by
  obtain ⟨past, code, rfl, clean, rejects⟩ := h
  rw [List.append_assoc]
  refine ⟨⟨verdicts_rejected clean ?_, ?_⟩, reason, rfl⟩
  · intro ev hev
    rw [List.mem_singleton.1 hev]
    exact verdict?_none rfl rfl rfl
  · refine clean.answered.refused none (fun _ _ _ => followed_of_answered) ?_ (by simp [refusedStop])
    unfold Followed
    rw [if_pos rejects]
    refine ⟨reply, [], rfl, ?_⟩
    rw [untold]
    exact nofun

theorem Rejected.seen {reply : Reply} {status : ServiceStatus} (h : Rejected errand name service log)
    (told : reply.tells = .ok status) :
    Seen errand name service status (log ++ [.exchange ⟨.queryStatus service, reply, none⟩]) := by
  obtain ⟨past, code, rfl, clean, rejects⟩ := h
  exact ⟨past, code, reply, List.append_assoc _ _ _, clean, rejects, told⟩

/-- Once its process is ended the rejection is answered. -/
theorem Seen.ended {status : ServiceStatus} (h : Seen errand name service status log) :
    Clean errand name (log ++ [.ended status.processId]) := by
  obtain ⟨past, code, reply, rfl, clean, rejects, told⟩ := h
  rw [List.append_assoc]
  refine ⟨verdicts_rejected clean ?_, ?_⟩
  · intro ev hev
    obtain rfl | rfl : ev = _ ∨ ev = _ := by simpa using hev
    · exact verdict?_none rfl rfl rfl
    · exact verdict?_none rfl rfl rfl
  · exact clean.answered.refused none (fun _ _ _ h => h) ⟨rejects, reply, status, [], told, rfl⟩ (by simp [refusedStop])

end Rejection

namespace Lookout

variable {γ κ α : Type} {o : Lookout γ κ} {d : Desk κ} {Φ : List Event → Prop} {f : Function} {c : Call}
  {errand : Errand} {name : String}

/-- What has happened since a program began, if it succeeds and if it fails. -/
def ends (o : Lookout γ κ) (d : Desk κ) (Φ : List Event → Prop) (Ξ : ServiceError → List Event → Prop) :
    Except ServiceError α → Sight (Desk κ) → Prop :=
  Either (fun _ => o.since d Φ) fun e => o.since d (Ξ e)

variable (clear : o.Clear)
include clear

/-! ## Plain uses of Windows -/

section Plain

variable (lasting : Lasting Φ)
include lasting

theorem invoke_lasts (called : c.function? = some f) (closes : c.closes? = none) (obtains : c.obtains = false)
    (plain : ∀ reply, (Event.exchange ⟨c, reply, none⟩).isPlain = true) :
    o.place.Ensures (o.since d Φ) (invoke o.cell f c) fun _ => o.since d Φ :=
  invoke_since clear called closes obtains fun log reply h => lasting log _ h (plain reply)

theorem acquire_lasts (called : c.function? = some f) (closes : c.closes? = none) (obtains : c.obtains = true)
    (plain : ∀ reply h, (Event.exchange ⟨c, reply, h⟩).isPlain = true) :
    o.place.Yields (o.since d Φ) (acquire o.cell f c) (Either (fun _ => o.since d Φ) fun _ => o.since d Φ) :=
  acquire_since (Ψ := fun _ => Φ) (Ξ := fun _ => Φ) clear called closes obtains
    (fun log reply _ hlog _ => lasting log _ hlog (plain reply _)) fun log _ hlog => lasting log _ hlog (plain _ _)

theorem closeHandle_lasts (h : Handle) :
    o.place.Ensures (o.since d Φ) (closeHandle o.cell h) fun _ => o.since d Φ :=
  close_since clear rfl rfl fun log _ hlog => lasting log _ hlog rfl

theorem keys_last : Keys o.place o.cell (o.since d Φ) fun _ => o.since d Φ where
  creates _ := acquire_lasts clear lasting rfl rfl rfl fun _ _ => rfl
  opens _ := acquire_lasts clear lasting rfl rfl rfl fun _ _ => rfl
  sets _ _ _ := invoke_lasts clear lasting rfl rfl rfl fun _ => rfl
  queries _ _ _ := invoke_lasts clear lasting rfl rfl rfl fun _ => rfl
  closes _ := close_since clear rfl rfl fun log _ hlog => lasting log _ hlog rfl
  deletes _ := invoke_lasts clear lasting rfl rfl rfl fun _ => rfl

theorem start_lasts (h : Handle) : o.place.Yields (o.since d Φ) (start o.cell h) (Bluntly (o.since d Φ)) :=
  order_bluntly (invoke_lasts clear lasting rfl rfl rfl fun _ => rfl) _

theorem setRecovery_lasts (h : Handle) (action : RecoveryAction) :
    o.place.Yields (o.since d Φ) (setRecovery o.cell h action) (Bluntly (o.since d Φ)) :=
  order_bluntly (invoke_lasts clear lasting rfl rfl rfl fun _ => rfl) _

/-- A service is told to be deleted only if it is. -/
theorem delete_lasts (h : Handle) : o.place.Yields (o.since d Φ) (delete o.cell h)
    (Either (fun _ => o.since d fun log => Φ log ∧ ∃ ev ∈ log, ev.deletes = true)
      fun e σ => (∃ reason, e = .manager reason) ∧ o.since d Φ σ) := by
  have hrequest : o.place.Yields (o.since d Φ) (request o.cell .deleteService (.deleteService h))
      (Either (fun _ => o.since d fun log => Φ log ∧ ∃ ev ∈ log, ev.deletes = true) fun _ => o.since d Φ) := by
    have hdeletes (log : List Event) (reply : Reply) (grants : reply.Grants) :
        ∃ ev ∈ log ++ [Event.exchange ⟨.deleteService h, reply, none⟩], ev.deletes = true :=
      ⟨_, List.mem_append_right _ List.mem_cons_self, isOk_of_grants grants⟩
    have hinvoke := invoke_since (f := .deleteService) (c := .deleteService h) (d := d) (Φ := Φ)
      (Ψ := fun reply log => Φ log ∧ (reply.Grants → ∃ ev ∈ log, ev.deletes = true)) clear rfl rfl rfl
      fun log reply hlog => ⟨lasting log _ hlog rfl, hdeletes log reply⟩
    refine request_replied (hinvoke.weaken fun reply σ hσ => ?_)
    cases reply with
    | fails code => exact since_mono (fun _ h => h.1) σ hσ
    | _ => exact since_mono (fun _ h => ⟨h.1, h.2 fun _ => nofun⟩) σ hσ
  refine explained_yields (hrequest.bind (fun _ => .pure fun _ hσ => hσ) ?_)
  exact fun _ _ hσ => ⟨⟨_, rfl⟩, hσ⟩

end Plain

/-! ## Sessions and entries -/

theorem connect_tells :
    o.place.Yields (o.since d (Clean errand name)) (connect o.cell)
      (o.ends d (Clean errand name) (Unconnected errand name)) := by
  refine connect_yields (acquire_since (Ψ := fun _ => Clean errand name)
    (Ξ := fun fault => Unconnected errand name (connect.explain fault)) clear rfl rfl rfl ?_ ?_)
  · intro log reply h hlog grants
    refine hlog.snoc (verdict?_none ?_ rfl rfl) (by simp [refusedStop])
    cases reply with
    | fails code => exact absurd rfl (grants code)
    | _ => rfl
  · intro log code hlog
    by_cases denied : code = Code.accessDenied
    · subst denied
      exact .denied hlog rfl
    · have hexplain : connect.explain (.system code) = (Fault.system code).during "connect to service manager" :=
        if_neg fun h => denied (Option.some.inj h)
      have hdenies : (Event.exchange ⟨.openManager Code.managerAccess, .fails code, none⟩).denies = false :=
        decide_eq_false denied
      rw [hexplain]
      exact .failed (hlog.snoc (verdict?_none hdenies rfl rfl) (by simp [refusedStop])) _

theorem openService_tells (m : Handle) :
    o.place.Yields (o.since d (Clean errand name)) (openService o.cell m name)
      (o.ends d (Opened errand name) (Unopened errand name)) := by
  refine openService_yields (fun checked => acquire_since (Ψ := fun _ => Opened errand name)
    (Ξ := fun fault => Unopened errand name (openService.explain name fault)) clear rfl rfl rfl ?_ ?_) ?_
  · intro log reply h hlog grants
    exact ⟨log, _, rfl, hlog, isOk_of_grants grants⟩
  · intro log code hlog
    by_cases missing : code = Code.serviceDoesNotExist
    · subst missing
      exact .missed hlog rfl
    · have hexplain : openService.explain name (.system code) = (Fault.system code).during "open service" :=
        if_neg fun h => missing (Option.some.inj h)
      have hmisses : (Event.exchange ⟨.openService m checked Code.openAccess, .fails code, none⟩).misses = false :=
        decide_eq_false missing
      rw [hexplain]
      exact .failed (hlog.snoc (verdict?_none rfl rfl hmisses) (by simp [refusedStop])) _
  · intro fault σ hcode
    have hexplain : openService.explain name fault = fault.during "open service" := if_neg (by rw [hcode]; nofun)
    rw [hexplain]
    exact since_mono (fun _ clean => .failed clean _) σ

theorem createService_tells (m : Handle) {spec : ServiceSpec} (named : spec.name = name) :
    o.place.Yields (o.since d (Clean .install name)) (createService o.cell m spec)
      (o.ends d (Created name) (Inside .install name)) := by
  refine createService_yields (R := fun _ => o.since d (Created name)) (fun new => acquire_since
    (Ψ := fun _ => Created name) (Ξ := fun fault => Inside .install name (createService.explain spec fault))
    clear rfl rfl rfl ?_ ?_) ?_ ?_ fun _ _ hσ => hσ
  · intro log reply h hlog grants
    have hcreates : (Event.exchange ⟨.createService m new Code.createAccess, reply, some h⟩).creates = true :=
      isOk_of_grants grants
    refine ⟨hlog.snoc (verdict?_installing rfl ?_) (by simp [refusedStop]), _, ?_, hcreates⟩
    · cases reply with
      | fails code => exact absurd rfl (grants code)
      | _ => rfl
    · exact List.mem_append_right _ List.mem_cons_self
  · intro log code hlog
    by_cases exist : code = Code.serviceExists
    · subst exist
      have hexplain : createService.explain spec (.system Code.serviceExists) = .alreadyExists name :=
        (if_pos rfl).trans (congrArg _ named)
      rw [hexplain]
      exact ⟨hlog.decides (verdict?_present.2 rfl), nofun⟩
    · have hexplain : createService.explain spec (.system code) = (Fault.system code).during "create service" :=
        if_neg fun h => exist (Option.some.inj h)
      have hfinds : (Event.exchange ⟨.createService m new Code.createAccess, .fails code, none⟩).finds = false :=
        decide_eq_false exist
      rw [hexplain]
      exact Clean.refused (hlog.snoc (verdict?_installing rfl hfinds) (by simp [refusedStop]))
  · intro fault σ hcode
    have hexplain : createService.explain spec fault = fault.during "create service" := if_neg (by rw [hcode]; nofun)
    rw [hexplain]
    exact since_mono (fun _ => Clean.refused) σ
  · exact fun _ _ => invoke_lasts clear created_lasting rfl rfl rfl fun _ => rfl

/-! ## Looks and stops -/

section Entry

variable {h : Handle}

theorem query_tells : o.place.Yields (o.since d (Clean errand name)) (query o.cell h)
    (Bluntly (o.since d (Clean errand name))) := by
  have hlook := invoke_since (f := .queryStatus) (c := .queryStatus h) (d := d) (Φ := Clean errand name)
    (Ψ := fun _ => Clean errand name) clear rfl rfl rfl
    fun log reply hlog => hlog.snoc (verdict?_none rfl rfl rfl) (by simp [refusedStop])
  refine query_yields (hlook.weaken fun reply σ hσ => ?_)
  cases reply.tells with
  | ok status => exact hσ
  | error fault => exact ⟨⟨_, rfl⟩, hσ⟩

theorem query_rejected : o.place.Yields (o.since d (Rejected errand name h)) (query o.cell h)
    (Either (fun status => o.since d (Seen errand name h status)) fun e => o.since d (Halted errand name e)) := by
  have hlook := invoke_since (f := .queryStatus) (c := .queryStatus h) (d := d) (Φ := Rejected errand name h)
    (Ψ := fun reply log => ∃ past, log = past ++ [.exchange ⟨.queryStatus h, reply, none⟩] ∧ Rejected errand name h past)
    clear rfl rfl rfl fun log reply hlog => ⟨log, rfl, hlog⟩
  refine query_yields (hlook.weaken fun reply σ hσ => ?_)
  cases htells : reply.tells with
  | ok status =>
    refine since_mono ?_ σ hσ
    rintro _ ⟨past, rfl, rejected⟩
    exact rejected.seen htells
  | error fault =>
    refine since_mono ?_ σ hσ
    rintro _ ⟨past, rfl, rejected⟩
    exact rejected.unseen htells _

/-- What a stop that was sent has come to. -/
def sent (o : Lookout γ κ) (d : Desk κ) (errand : Errand) (name : String) (h : Handle) :
    Except ServiceError ServiceStatus → Sight (Desk κ) → Prop :=
  Either (fun _ => o.since d (Clean errand name)) fun e =>
    o.since d (if e.isControlRejection then Rejected errand name h else Halted errand name e)

omit clear in
theorem sent_refused {code : Nat} {past : List Event} (hpast : Clean errand name past) (σ : Sight (Desk κ))
    (trail : Trail (Desk.Meets o.mark) d (past ++ [refusedStop h code none]) σ.held) :
    o.sent d errand name h (.error (control.explain (.system code))) σ := by
  refine ⟨_, trail, ?_⟩
  by_cases rejects : Rejects code
  · have hexplain : control.explain (.system code) = .controlRejected (Fault.system code).message := by
      rcases rejects with rfl | rfl <;> rfl
    rw [hexplain]
    exact ⟨past, code, rfl, hpast, rejects⟩
  · have hexplain : control.explain (.system code) = (Fault.system code).during "control service" := by
      refine if_neg fun h => rejects ?_
      simpa [Fault.code?, Rejects] using h
    rw [hexplain]
    exact hpast.unanswered _ rejects

theorem control_tells :
    o.place.Yields (o.since d (Clean errand name)) (control o.cell h .stop) (o.sent d errand name h) := by
  have hstop := invoke_since (f := .controlService) (c := .controlService h Code.stopControl) (d := d)
    (Φ := Clean errand name) (Ψ := fun reply log => ∃ past,
      log = past ++ [.exchange ⟨.controlService h Code.stopControl, reply, none⟩] ∧ Clean errand name past)
    clear rfl rfl rfl fun log reply hlog => ⟨log, rfl, hlog⟩
  refine control_yields (hstop.weaken fun reply σ hσ => ?_)
  obtain ⟨_, trail, past, rfl, hpast⟩ := hσ
  -- a control that is taken may still tell no state, which is no rejection
  by_cases grants : reply.Grants
  · have hlog : Clean errand name (past ++ [.exchange ⟨.controlService h Code.stopControl, reply, none⟩]) := by
      refine hpast.snoc (verdict?_none rfl rfl rfl) fun service code handle hmem => ?_
      have hevent := List.mem_singleton.1 hmem
      unfold refusedStop at hevent
      cases hevent
      exact grants code rfl
    cases htells : reply.tellsState with
    | ok status => exact ⟨_, trail, hlog⟩
    | error fault =>
      have hexplain : control.explain fault = fault.during "control service" := by
        unfold control.explain
        rw [tellsState_codeless grants fault htells]
        rfl
      show o.sent d errand name h (.error (control.explain fault)) σ
      rw [hexplain]
      exact ⟨_, trail, hlog.halted⟩
  · obtain ⟨code, rfl⟩ := fails_of_refused grants
    exact sent_refused hpast σ trail

end Entry

/-! ## Kinds of failures -/

omit clear in
theorem halted_of_bluntly {e : ServiceError} {σ : Sight (Desk κ)}
    (h : Bluntly (α := α) (o.since d (Clean errand name)) (.error e) σ) : o.since d (Halted errand name e) σ := by
  obtain ⟨⟨reason, rfl⟩, hσ⟩ := h
  exact since_mono (fun _ => Clean.halted) σ hσ

omit clear in
theorem inside_of_bluntly (r : Except ServiceError α) (σ : Sight (Desk κ))
    (h : Bluntly (o.since d (Clean errand name)) r σ) : o.ends d (Clean errand name) (Inside errand name) r σ := by
  cases r with
  | ok _ => exact h
  | error e =>
    obtain ⟨⟨reason, rfl⟩, hσ⟩ := h
    exact since_mono (fun _ => Clean.refused) σ hσ

omit clear in
theorem ends_mono {Ψ : List Event → Prop} {Ξ Ξ' : ServiceError → List Event → Prop} (ok : ∀ log, Φ log → Ψ log)
    (error : ∀ e log, Ξ e log → Ξ' e log) (r : Except ServiceError α) (σ : Sight (Desk κ)) (h : o.ends d Φ Ξ r σ) :
    o.ends d Ψ Ξ' r σ := by
  cases r with
  | ok _ => exact since_mono ok σ h
  | error e => exact since_mono (error e) σ h

end Lookout

end ServiceControl.Windows
