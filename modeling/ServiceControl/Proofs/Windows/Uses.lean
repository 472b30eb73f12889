import ServiceControl.Proofs.Windows.Dispatch
/-!
# Uses of Windows

Each use of Windows is followed from the calls that it makes: what holds after it, whatever is wanted to hold, follows
from what holds after its calls.  Most uses keep what their calls keep and fail with an error of the manager only
(`Bluntly`); of the registry this is said with a key open and without one (`Keys`).
-/
namespace ServiceControl.Windows

open Cell (Ensures Yields Either)

section Uses

variable {γ β α : Type} {place : Cell γ β} {cell : Cell γ Machine} {P : Sight β → Prop}

/-! ## Errors -/

/-- This holds whether a program succeeds or fails, and it fails with an error of the manager only. -/
def Bluntly (P : Sight β → Prop) : Except ServiceError α → Sight β → Prop :=
  Either (fun _ => P) fun e σ => (∃ reason, e = .manager reason) ∧ P σ

theorem Bluntly.kept {r : Except ServiceError α} {σ : Sight β} (h : Bluntly P r σ) : P σ := by
  cases r with
  | ok _ => exact h
  | error e => exact h.2

/-- Either way the same is done after it. -/
theorem bluntly_after {m : Type → Type} [Monad m] [MonadStateOf (Scene γ) m] [Playable γ m] {Q : Sight β → Prop}
    {x : m Unit} (hx : place.Ensures Q x fun _ => P) (r : Except ServiceError α) :
    place.Ensures (Bluntly Q r) x fun _ => Bluntly P r := by
  cases r with
  | ok _ => exact hx
  | error e =>
    rintro s ⟨reason, hs⟩
    obtain ⟨a, ha, h⟩ := hx s hs
    exact ⟨a, ha, reason, h⟩

theorem explained_yields {explain : Fault → ServiceError} {x : Sys γ α} {Q : Except ServiceError α → Sight β → Prop}
    (hx : place.Yields P x (Either (fun a => Q (.ok a)) fun fault => Q (.error (explain fault)))) :
    place.Yields P (explained explain x) Q := by
  refine hx.explain explain fun r σ hσ => ?_
  cases r with
  | ok a => exact hσ
  | error fault => exact hσ

/-- What is checked before Windows is asked fails without a code of Windows. -/
def Codeless (x : Except Fault α) : Prop := ∀ fault, x = .error fault → fault.code? = none

theorem Codeless.ok (a : α) : Codeless (.ok a) := nofun

theorem Codeless.bind {δ : Type} {x : Except Fault α} {f : α → Except Fault δ} (hx : Codeless x)
    (hf : ∀ a, Codeless (f a)) : Codeless (x >>= f) := by
  cases x with
  | ok a => exact hf a
  | error fault =>
    intro fault' h
    exact hx fault' (congrArg Except.error (Except.error.inj h))

theorem terminated_codeless {what : Fault} (h : what.code? = none) (s : String) : Codeless (terminated what s) := by
  unfold terminated
  split
  · exact .ok _
  · rintro _ ⟨⟩
    exact h

theorem checkOptional_codeless {what : Fault} (h : what.code? = none) (s : Option String) :
    Codeless (checkOptional what s) := by
  cases s with
  | none => exact .ok _
  | some s =>
    show Codeless (some <$> terminated what s)
    rw [map_eq_pure_bind]
    exact (terminated_codeless h s).bind fun _ => .ok _

theorem argumentWords_codeless (i : Nat) (words : List String) : Codeless (argumentWords i words) := by
  induction words generalizing i with
  | nil => exact .ok _
  | cons word words ih =>
    unfold argumentWords
    exact (terminated_codeless rfl _).bind fun _ => (ih (i + 1)).bind fun _ => .ok _

theorem newService_codeless (spec : ServiceSpec) : Codeless (newService spec) := by
  unfold newService
  refine (terminated_codeless rfl _).bind fun _ => (terminated_codeless rfl _).bind fun _ => ?_
  refine (checkOptional_codeless rfl _).bind fun _ => (checkOptional_codeless rfl _).bind fun _ => ?_
  exact (terminated_codeless rfl _).bind fun _ => (argumentWords_codeless 0 _).bind fun _ => .ok _

/-! ## Handles -/

section Handles

variable {Q : Except ServiceError Handle → Sight β → Prop}

/-- A handle is asked for, and only the handle is told. -/
theorem handle_yields {f : Function} {c : Call} {explain : Fault → ServiceError}
    (h : place.Yields P (acquire cell f c) (Either (fun r => Q (.ok r.1)) fun fault => Q (.error (explain fault)))) :
    place.Yields P (do return (← acquire cell f c).1)
      (Either (fun a => Q (.ok a)) fun fault => Q (.error (explain fault))) :=
  h.bind (fun _ => .pure fun _ hσ => hσ) fun _ _ hσ => hσ

theorem connect_yields (h : place.Yields P (acquire cell .openManager (.openManager Code.managerAccess))
      (Either (fun r => Q (.ok r.1)) fun fault => Q (.error (connect.explain fault)))) :
    place.Yields P (connect cell) Q :=
  explained_yields (handle_yields h)

theorem openService_yields {m : Handle} {name : String}
    (h : ∀ checked, place.Yields P (acquire cell .openService (.openService m checked Code.openAccess))
      (Either (fun r => Q (.ok r.1)) fun fault => Q (.error (openService.explain name fault))))
    (unasked : ∀ fault σ, fault.code? = none → P σ → Q (.error (openService.explain name fault)) σ) :
    place.Yields P (openService cell m name) Q := by
  refine explained_yields (.result_bind (fun checked _ => handle_yields (h checked)) ?_)
  exact fun fault hfault σ hσ => unasked fault σ (terminated_codeless rfl _ fault hfault) hσ

theorem describe_ensures {service : Handle} (spec : ServiceSpec)
    (h : ∀ text, place.Ensures P (invoke cell .changeConfig (.setDescription service text)) fun _ => P) :
    place.Ensures P (describe cell service spec) fun _ => P := by
  have hdescribed : place.Yields P _ fun _ => P :=
    .result_bind (r := terminated (.nul "service description") spec.description)
      (fun text _ => request_yields (h text)) fun _ _ _ hσ => hσ
  unfold describe
  refine Ensures.bind hdescribed fun r => ?_
  cases r with
  | ok _ => exact .pure fun _ hσ => hσ
  | error fault => exact .log _ _

/-- A service that is created is described, and that this fails does not matter. -/
theorem createService_yields {m : Handle} {spec : ServiceSpec} {R : Handle → Sight β → Prop}
    (h : ∀ new, place.Yields P (acquire cell .createService (.createService m new Code.createAccess))
      (Either (fun r => R r.1) fun fault => Q (.error (createService.explain spec fault))))
    (unasked : ∀ fault σ, fault.code? = none → P σ → Q (.error (createService.explain spec fault)) σ)
    (described : ∀ service text,
      place.Ensures (R service) (invoke cell .changeConfig (.setDescription service text)) fun _ => R service)
    (created : ∀ service σ, R service σ → Q (.ok service) σ) : place.Yields P (createService cell m spec) Q := by
  unfold createService
  refine Yields.bind (R := Either R fun e => Q (.error e)) ?_ ?_ fun _ _ hσ => hσ
  · refine explained_yields (.result_bind (fun new _ => handle_yields (h new)) ?_)
    exact fun fault hfault σ hσ => unasked fault σ (newService_codeless _ fault hfault) hσ
  · intro service
    split
    · refine (Yields.lift (describe_ensures spec (described service))).bind_ok fun _ => .pure (created service)
    · exact .pure (created service)

end Handles

/-! ## Entries -/

/-- An order to a service, of which nothing is told but whether it was taken. -/
theorem order_bluntly {f : Function} {c : Call} (h : place.Ensures P (invoke cell f c) fun _ => P)
    (operation : String) :
    place.Yields P (explained (·.during operation) do let _ ← request cell f c) (Bluntly P) := by
  refine explained_yields ((request_yields h).bind (fun _ => .pure fun _ hσ => hσ) ?_)
  exact fun _ _ hσ => ⟨⟨_, rfl⟩, hσ⟩

/-- The status that a reply tells. -/
def Reply.tells : Reply → Except Fault ServiceStatus
  | .fails code => .error (.system code)
  | .status state pid => readStatus state pid
  | _ => readStatus 1 0

/-- The same without the process. -/
def Reply.tellsState : Reply → Except Fault ServiceStatus
  | .fails code => .error (.system code)
  | .status state _ => readStatus state 0
  | _ => readStatus 1 0

theorem readStatus_codeless (state pid : Nat) : Codeless (readStatus state pid) := by
  unfold readStatus
  split
  · exact .ok _
  · rintro _ ⟨⟩
    rfl

theorem tellsState_codeless {reply : Reply} (grants : reply.Grants) : Codeless reply.tellsState := by
  cases reply with
  | fails code => exact absurd rfl (grants code)
  | status state _ => exact readStatus_codeless state 0
  | _ => exact readStatus_codeless 1 0

section Entry

variable {service : Handle} {Q : Except ServiceError ServiceStatus → Sight β → Prop}

/-- What is read of a reply is all that matters of it. -/
theorem reply_yields {f : Function} {c : Call} {x : Reply → Sys γ α} (read : Reply → Except Fault α)
    {T : Except Fault α → Sight β → Prop} (fails : ∀ code, read (.fails code) = .error (.system code))
    (reads : ∀ reply, reply.Grants → x reply = liftM (read reply))
    (h : place.Ensures P (invoke cell f c) fun reply => T (read reply)) : place.Yields P (request cell f c >>= x) T := by
  refine Yields.bind (R := Either (fun reply σ => reply.Grants ∧ T (read reply) σ) fun fault => T (.error fault))
    (request_replied (h.weaken fun reply σ hσ => ?_)) (fun reply => ?_) fun _ _ hσ => hσ
  · cases reply with
    | fails code =>
      rw [fails code] at hσ
      exact hσ
    | _ => exact ⟨fun _ => nofun, hσ⟩
  · rintro s ⟨grants, hs⟩
    rw [reads reply grants]
    exact ((Yields.result (read reply)).weaken fun r σ ⟨h, hσ⟩ => h ▸ hσ : place.Yields (T (read reply)) _ T) s hs

theorem query_yields (h : place.Ensures P (invoke cell .queryStatus (.queryStatus service)) fun reply =>
      Q (reply.tells.mapError (·.during "query service status"))) :
    place.Yields P (query cell service) Q := by
  refine Yields.explain (R := fun r => Q (r.mapError (·.during "query service status"))) _ ?_ fun _ _ hσ => hσ
  refine reply_yields Reply.tells (fun _ => rfl) (fun reply grants => ?_) h
  cases reply with
  | fails code => exact absurd rfl (grants code)
  | _ => rfl

theorem control_yields (h : place.Ensures P (invoke cell .controlService (.controlService service Code.stopControl))
      fun reply => Q (reply.tellsState.mapError control.explain)) :
    place.Yields P (control cell service .stop) Q := by
  refine Yields.explain (R := fun r => Q (r.mapError control.explain)) _ ?_ fun _ _ hσ => hσ
  refine reply_yields Reply.tellsState (fun _ => rfl) (fun reply grants => ?_) h
  cases reply with
  | fails code => exact absurd rfl (grants code)
  | _ => rfl

end Entry

end Uses

/-! ## The registry -/

/-- What the calls of the registry keep: `K` holds while a key is open. -/
structure Keys {γ β : Type} (place : Cell γ β) (cell : Cell γ Machine) (P : Sight β → Prop)
    (K : Handle → Sight β → Prop) : Prop where
  creates : ∀ path, place.Yields P (acquire cell .createKey (.createKey path Code.keyReadWrite))
    (Either (fun r => K r.1) fun _ => P)
  opens : ∀ path, place.Yields P (acquire cell .openKey (.openKey path Code.keyRead))
    (Either (fun r => K r.1) fun _ => P)
  sets : ∀ key name data, place.Ensures (K key) (invoke cell .setValue (.setValue key name data)) fun _ => K key
  queries : ∀ key name size, place.Ensures (K key) (invoke cell .queryValue (.queryValue key name size)) fun _ => K key
  closes : ∀ key, place.Ensures (K key) (closeKey cell key) fun _ => P
  deletes : ∀ path, place.Ensures P (invoke cell .deleteKey (.deleteKey path)) fun _ => P

namespace Keys

variable {γ β : Type} {place : Cell γ β} {cell : Cell γ Machine} {P : Sight β → Prop} {K : Handle → Sight β → Prop}
  (keys : Keys place cell P K)
include keys

theorem createKey_yields (path : String) :
    place.Yields P (createKey cell path)
      (Either (fun r => K r.1) fun e σ => (∃ reason, e = ServiceError.manager reason) ∧ P σ) := by
  unfold createKey
  refine Yields.bind_ok (Yields.lift (keys.creates (upToNul path))) fun r => ?_
  cases r with
  | ok r => exact .pure fun _ hσ => hσ
  | error fault => cases fault <;> exact .throw fun _ hσ => ⟨⟨_, rfl⟩, hσ⟩

theorem setValue_bluntly (key : Handle) (name : String) (data : RegistryData) :
    place.Yields (K key) (setValue cell key name data) (Bluntly (K key)) := by
  unfold setValue
  refine (Yields.lift (keys.sets key name data)).bind_ok fun reply => ?_
  cases reply with
  | fails code => exact .throw fun _ hσ => ⟨⟨_, rfl⟩, hσ⟩
  | _ => exact .pure fun _ hσ => hσ

theorem registerLogSource_bluntly (name : String) : place.Yields P (registerLogSource cell name) (Bluntly P) := by
  have hvalues (key : Handle) : place.Yields (K key) (do
      setValue cell key "EventMessageFile" (.expandString messageFile)
      setValue cell key "TypesSupported" (.word supportedEvents)
      setValue cell key "CustomSource" (.word 1)) (Bluntly (K key)) := by
    refine (keys.setValue_bluntly key _ _).bind (fun _ => ?_) fun _ _ hσ => hσ
    exact (keys.setValue_bluntly key _ _).bind (fun _ => keys.setValue_bluntly key _ _) fun _ _ hσ => hσ
  unfold registerLogSource
  refine Yields.bind (R := Bluntly P) ?_ (fun _ => (Yields.log _ _).of_succeeds fun _ _ hσ => hσ) fun _ _ hσ => hσ
  refine (keys.createKey_yields _).holding (U := fun r => Bluntly (K r.1)) (fun _ _ hσ => hσ) ?_
    fun r => bluntly_after (keys.closes r.1)
  rintro ⟨key, existed⟩
  cases existed with
  | true => exact .throw_bind fun _ hσ => ⟨⟨_, rfl⟩, hσ⟩
  | false => exact hvalues key

theorem removeLogSource_bluntly (name : String) : place.Yields P (removeLogSource cell name) (Bluntly P) := by
  unfold removeLogSource
  refine (Yields.lift (keys.deletes _)).bind_ok fun reply => ?_
  cases reply with
  | fails code => exact .throw fun _ hσ => ⟨⟨_, rfl⟩, hσ⟩
  | _ => exact (Yields.log _ _).of_succeeds fun _ _ hσ => hσ

theorem stopTimeoutSetting_ensures : place.Ensures P (stopTimeoutSetting cell) fun _ => P := by
  have hvalue (key : Handle) : place.Ensures (K key) (textValue cell key stopTimeoutValue) fun _ => K key := by
    unfold textValue
    refine (keys.queries key _ _).bind fun reply => ?_
    cases reply with
    | value kind size units => exact .pure fun _ hσ => hσ
    | _ => exact .pure fun _ hσ => hσ
  unfold stopTimeoutSetting
  refine Ensures.bind (keys.opens controlPath) fun r => ?_
  cases r with
  | error fault => exact .pure fun _ hσ => hσ
  | ok r =>
    refine (hvalue r.1).bind fun setting => ?_
    exact (keys.closes r.1).bind fun _ => .pure fun _ hσ => hσ

theorem stopTimeout_ensures : place.Ensures P (stopTimeout cell) fun _ => P := by
  unfold stopTimeout
  refine keys.stopTimeoutSetting_ensures.bind fun setting => ?_
  unfold StopTimeout.take
  dsimp only
  split
  · exact (Ensures.log _ _).bind fun _ => .pure fun _ hσ => hσ
  · exact .pure fun _ hσ => hσ

end Keys

end ServiceControl.Windows
