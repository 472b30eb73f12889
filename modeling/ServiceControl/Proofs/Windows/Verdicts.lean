import ServiceControl.Proofs.Windows.Exchanges
/-!
# What exchanges decide

Some exchanges decide by themselves with what error an errand ends (`verdict?`), and a stop that Windows refuses decides
how the errand goes on (`Followed`).  An account of a program says both of its result and of the events since it began
(`Told`); where access was not denied it is not changed by events that decide nothing (`Told.plain`).
-/
namespace ServiceControl.Windows

/-! ## Verdicts -/

namespace Event

/-- The manager denies access. -/
def denies : Event → Bool
  | exchange ⟨.openManager .., .fails code, _⟩ => code = Code.accessDenied
  | _ => false

/-- There is no such service. -/
def misses : Event → Bool
  | exchange ⟨.openService .., .fails code, _⟩ => code = Code.serviceDoesNotExist
  | _ => false

/-- There is such a service already. -/
def finds : Event → Bool
  | exchange ⟨.openService .., reply, _⟩ => (replied reply).isOk
  | exchange ⟨.createService .., .fails code, _⟩ => code = Code.serviceExists
  | _ => false

/-- A service is created. -/
def creates : Event → Bool
  | exchange ⟨.createService .., reply, _⟩ => (replied reply).isOk
  | _ => false

/-- A service is deleted. -/
def deletes : Event → Bool
  | exchange ⟨.deleteService .., reply, _⟩ => (replied reply).isOk
  | _ => false

/-- A call that is made alike on all errands: it neither opens nor creates anything of the manager, and neither controls
the service nor looks at it. -/
def isPlain : Event → Bool
  | exchange e =>
    match e.call with
    | .openManager .. | .openService .. | .createService .. | .controlService .. | .queryStatus .. => false
    | _ => true
  | ended _ => false

/-- The service is not looked at, and no process is ended. -/
def isQuiet : Event → Bool
  | exchange e =>
    match e.call with
    | .queryStatus .. => false
    | _ => true
  | ended _ => false

end Event

/-- The error that an exchange decides, of an errand for the service of this name. -/
def verdict? (errand : Errand) (name : String) (ev : Event) : Option ServiceError :=
  if ev.denies then some .permissionDenied
  else
    match errand with
    | .install => if ev.finds then some (.alreadyExists name) else none
    | .status => none
    | _ => if ev.misses then some (.notInstalled name) else none

def verdicts (errand : Errand) (name : String) (log : List Event) : List ServiceError :=
  log.filterMap (verdict? errand name)

/-- The errors that an exchange decides. -/
def isVerdict : ServiceError → Bool
  | .permissionDenied | .alreadyExists _ | .notInstalled _ => true
  | _ => false

section Verdict

variable {errand : Errand} {name : String} {ev : Event} {log : List Event}

theorem verdict?_installing (denies : ev.denies = false) (finds : ev.finds = false) :
    verdict? .install name ev = none := by
  unfold verdict?
  rw [denies, finds]
  rfl

theorem verdict?_other (other : errand ≠ .install) (denies : ev.denies = false) (misses : ev.misses = false) :
    verdict? errand name ev = none := by
  unfold verdict?
  rw [denies, misses]
  cases errand with
  | install => exact absurd rfl other
  | _ => rfl

theorem verdict?_none (denies : ev.denies = false) (finds : ev.finds = false) (misses : ev.misses = false) :
    verdict? errand name ev = none := by
  by_cases installs : errand = .install
  · subst installs
    exact verdict?_installing denies finds
  · exact verdict?_other installs denies misses

theorem verdict?_plain (plain : ev.isPlain = true) : verdict? errand name ev = none := by
  cases ev with
  | ended pid => cases plain
  | exchange e =>
    obtain ⟨call, reply, handle⟩ := e
    -- only calls that are not plain are asked for their replies
    refine verdict?_none ?_ ?_ ?_
    · cases call <;> first | rfl | cases plain
    · cases call <;> first | rfl | cases plain
    · cases call <;> first | rfl | cases plain

theorem not_denies (h : ev.misses = true ∨ ev.finds = true) : ev.denies = false := by
  cases ev with
  | ended pid => rfl
  | exchange e =>
    obtain ⟨call, reply, handle⟩ := e
    cases call with
    | openManager access => cases h <;> contradiction
    | _ => rfl

theorem not_misses (finds : ev.finds = true) : ev.misses = false := by
  cases ev with
  | ended pid => rfl
  | exchange e =>
    obtain ⟨call, reply, handle⟩ := e
    cases call with
    | openService manager service access =>
      cases reply with
      | fails code => cases finds
      | _ => rfl
    | _ => rfl

theorem not_finds (misses : ev.misses = true) : ev.finds = false := by
  cases finds : ev.finds with
  | false => rfl
  | true =>
    rw [not_misses finds] at misses
    cases misses

/-- That the service is missed decides nothing where its state is told. -/
theorem verdict?_telling (denies : ev.denies = false) : verdict? .status name ev = none := by
  unfold verdict?
  rw [denies]
  rfl

theorem verdict?_denied : verdict? errand name ev = some .permissionDenied ↔ ev.denies = true := by
  unfold verdict?
  cases hd : ev.denies with
  | true => simp
  | false => cases errand <;> cases ev.finds <;> cases ev.misses <;> simp

theorem verdict?_missing (other : errand ≠ .install) (told : errand ≠ .status) :
    verdict? errand name ev = some (.notInstalled name) ↔ ev.misses = true := by
  unfold verdict?
  cases hm : ev.misses with
  | true =>
    rw [not_denies (.inl hm)]
    cases errand <;> simp_all
  | false => cases ev.denies <;> cases errand <;> simp_all

theorem verdict?_present : verdict? .install name ev = some (.alreadyExists name) ↔ ev.finds = true := by
  unfold verdict?
  cases hf : ev.finds with
  | true =>
    rw [not_denies (.inr hf)]
    simp
  | false => cases ev.denies <;> simp

theorem verdicts_append (log log' : List Event) :
    verdicts errand name (log ++ log') = verdicts errand name log ++ verdicts errand name log' :=
  List.filterMap_append

theorem verdicts_snoc (idle : verdict? errand name ev = none) :
    verdicts errand name (log ++ [ev]) = verdicts errand name log := by
  have hnone : verdicts errand name [ev] = [] := List.filterMap_cons_none idle
  rw [verdicts_append, hnone, List.append_nil]

theorem verdicts_decided {e : ServiceError} (decided : verdict? errand name ev = some e) :
    verdicts errand name (log ++ [ev]) = verdicts errand name log ++ [e] := by
  have hone : verdicts errand name [ev] = [e] := List.filterMap_cons_some decided
  rw [verdicts_append, hone]

end Verdict

/-! ## Refused stops -/

/-- Windows says that the service takes no such control now. -/
def Rejects (code : Nat) : Prop := code = Code.invalidServiceControl ∨ code = Code.cannotAcceptControl

instance (code : Nat) : Decidable (Rejects code) := inferInstanceAs (Decidable (_ ∨ _))

/-- Windows refuses a stop. -/
def refusedStop (service : Handle) (code : Nat) (handle : Option Handle) : Event :=
  .exchange ⟨.controlService service Code.stopControl, .fails code, handle⟩

/-- This follows each stop that was refused. -/
def AfterRefusal (F : Handle → Nat → List Event → Prop) (log : List Event) : Prop :=
  ∀ past service code handle rest, log = past ++ refusedStop service code handle :: rest → F service code rest

/-- A service that rejected a stop was looked at, and its process ended. -/
def Answered (service : Handle) (code : Nat) (rest : List Event) : Prop :=
  Rejects code ∧ ∃ reply status rest', reply.tells = .ok status ∧
    rest = .exchange ⟨.queryStatus service, reply, none⟩ :: .ended status.processId :: rest'

/-- **What follows a stop that was refused with this code.**  A service that rejects it is looked at, and if that tells
its status, its process is ended; else nothing is looked at or ended. -/
def Followed (service : Handle) (code : Nat) (rest : List Event) : Prop :=
  if Rejects code then ∃ reply rest', rest = .exchange ⟨.queryStatus service, reply, none⟩ :: rest' ∧
    match reply.tells with
    | .ok status => ∃ rest'', rest' = .ended status.processId :: rest''
    | .error _ => ∀ ev ∈ rest', ev.isQuiet = true
  else ∀ ev ∈ rest, ev.isQuiet = true

section Refused

variable {F : Handle → Nat → List Event → Prop} {log past rest seg : List Event} {ev : Event} {service : Handle}
  {code : Nat}

theorem followed_of_answered (h : Answered service code rest) : Followed service code rest := by
  obtain ⟨rejects, reply, status, rest', htells, rfl⟩ := h
  unfold Followed
  rw [if_pos rejects]
  refine ⟨reply, _, rfl, ?_⟩
  rw [htells]
  exact ⟨rest', rfl⟩

theorem Answered.append (h : Answered service code rest) (seg : List Event) : Answered service code (rest ++ seg) := by
  obtain ⟨rejects, reply, status, rest', htells, rfl⟩ := h
  exact ⟨rejects, reply, status, rest' ++ seg, htells, rfl⟩

theorem Followed.snoc (h : Followed service code rest) (quiet : ev.isQuiet = true) :
    Followed service code (rest ++ [ev]) := by
  have hquiet {seg : List Event} (h : ∀ ev ∈ seg, ev.isQuiet = true) : ∀ ev' ∈ seg ++ [ev], ev'.isQuiet = true := by
    intro ev' hev'
    cases List.mem_append.1 hev' with
    | inl before => exact h ev' before
    | inr last => rwa [List.mem_singleton.1 last]
  unfold Followed at h ⊢
  split
  · rename_i rejects
    rw [if_pos rejects] at h
    obtain ⟨reply, rest', rfl, hrest⟩ := h
    refine ⟨reply, rest' ++ [ev], rfl, ?_⟩
    -- a process that was ended stays so; where none was, a quiet event ends none either
    cases htells : reply.tells with
    | ok status =>
      rw [htells] at hrest
      obtain ⟨rest'', rfl⟩ := hrest
      exact ⟨rest'' ++ [ev], rfl⟩
    | error fault =>
      rw [htells] at hrest
      exact hquiet hrest
  · rename_i rejects
    rw [if_neg rejects] at h
    exact hquiet h

theorem split_append {log log' past rest : List Event} (h : log ++ log' = past ++ ev :: rest) :
    (∃ mid, log = past ++ ev :: mid ∧ rest = mid ++ log') ∨ ∃ mid, past = log ++ mid ∧ log' = mid ++ ev :: rest := by
  obtain ⟨mid, rfl, hrest⟩ | ⟨mid, rfl, hrest⟩ := List.append_eq_append_iff.1 h
  · exact .inr ⟨mid, rfl, hrest⟩
  · cases mid with
    | nil => exact .inr ⟨[], by simp, hrest.symm⟩
    | cons first mid =>
      obtain ⟨rfl, rfl⟩ := List.cons.inj hrest
      exact .inl ⟨mid, rfl, rfl⟩

/-- Events that are no refused stops leave it so, if what follows each stop that was refused before may go on with them. -/
theorem AfterRefusal.append (h : AfterRefusal F log)
    (kept : ∀ service code rest, F service code rest → F service code (rest ++ seg))
    (clear : ∀ service code handle, refusedStop service code handle ∉ seg) : AfterRefusal F (log ++ seg) := by
  intro past service code handle rest hlog
  obtain ⟨mid, hpast, rfl⟩ | ⟨mid, -, hseg⟩ := split_append hlog
  · exact kept _ _ _ (h _ _ _ _ _ hpast)
  · exact absurd (hseg ▸ List.mem_append_right _ List.mem_cons_self) (clear service code handle)

theorem AfterRefusal.refused (h : AfterRefusal Answered log) (handle : Option Handle)
    (weaker : ∀ service code rest, Answered service code rest → F service code rest) (now : F service code seg)
    (clear : ∀ service code handle, refusedStop service code handle ∉ seg) :
    AfterRefusal F (log ++ refusedStop service code handle :: seg) := by
  intro past service' code' handle' rest hlog
  -- a refused stop lies before this one, or is this one: there is none after it
  obtain ⟨mid, hpast, rfl⟩ | ⟨mid, -, hseg⟩ := split_append hlog
  · exact weaker _ _ _ ((h _ _ _ _ _ hpast).append _)
  · cases mid with
    | nil =>
      obtain ⟨hstop, rfl⟩ := List.cons.inj hseg
      unfold refusedStop at hstop
      cases hstop
      exact now
    | cons first mid =>
      obtain ⟨-, rfl⟩ := List.cons.inj hseg
      exact absurd (List.mem_append_right _ List.mem_cons_self) (clear service' code' handle')

end Refused

/-! ## Accounts -/

/-- **The errors that there are, and what there must be among the events for them.** -/
inductive Arises (errand : Errand) (name : String) (log : List Event) : ServiceError → Prop
  | denied : Arises errand name log .permissionDenied
  | missing (other : errand ≠ .install) : Arises errand name log (.notInstalled name)
  | present (installs : errand = .install) : Arises errand name log (.alreadyExists name)
  | unsourced (installs : errand = .install) (created : ∃ ev ∈ log, ev.creates = true) (reason : String) :
      Arises errand name log (.logSourceRegistration name reason)
  | stuck (installs : errand = .install) (created : ∃ ev ∈ log, ev.creates = true) (reason rollback : String) :
      Arises errand name log (.rollbackFailed name reason rollback)
  | sourced (uninstalls : errand = .uninstall) (deleted : ∃ ev ∈ log, ev.deletes = true) (reason : String) :
      Arises errand name log (.logSourceRemoval name reason)
  | otherwise (reason : String) : Arises errand name log (.manager reason)

/-- Nothing is decided. -/
structure Calm (errand : Errand) (name : String) (log : List Event) : Prop where
  decided : verdicts errand name log = []
  followed : AfterRefusal Followed log

/-- Nothing is decided, and all stops that were refused are answered. -/
structure Clean (errand : Errand) (name : String) (log : List Event) : Prop where
  decided : verdicts errand name log = []
  answered : AfterRefusal Answered log

/-- **With what a program fails, as far as the events since it began tell**, or that it does not. -/
structure Told (errand : Errand) (name : String) (failure : Option ServiceError) (log : List Event) : Prop where
  decided : verdicts errand name log = (failure.filter isVerdict).toList
  last : failure = some .permissionDenied → verdicts errand name log.dropLast = []
  arises : ∀ e, failure = some e → Arises errand name log e
  followed : AfterRefusal Followed log
  answered : errand ≠ .uninstall → AfterRefusal Answered log ∨ ∃ reason, failure = some (.manager reason)

section Accounts

variable {errand : Errand} {name : String} {log : List Event} {ev : Event} {failure : Option ServiceError}
  {e : ServiceError}

theorem Arises.append (h : Arises errand name log e) (seg : List Event) : Arises errand name (log ++ seg) e := by
  have later {p : Event → Bool} (h : ∃ ev ∈ log, p ev = true) : ∃ ev ∈ log ++ seg, p ev = true := by
    obtain ⟨ev, hev, hp⟩ := h
    exact ⟨ev, List.mem_append_left _ hev, hp⟩
  cases h with
  | denied => exact .denied
  | missing other => exact .missing other
  | present installs => exact .present installs
  | unsourced installs created reason => exact .unsourced installs (later created) reason
  | stuck installs created reason rollback => exact .stuck installs (later created) reason rollback
  | sourced uninstalls deleted reason => exact .sourced uninstalls (later deleted) reason
  | otherwise reason => exact .otherwise reason

/-- A kind of event that no refused stop is of. -/
theorem not_refusedStop {p : Event → Bool} (h : p ev = true)
    (other : ∀ service code handle, p (refusedStop service code handle) = false) (service : Handle) (code : Nat)
    (handle : Option Handle) : refusedStop service code handle ∉ [ev] := by
  intro hmem
  rw [← List.mem_singleton.1 hmem, other] at h
  cases h

theorem not_refusedStop_of_plain (plain : ev.isPlain = true) (service : Handle) (code : Nat)
    (handle : Option Handle) : refusedStop service code handle ∉ [ev] :=
  not_refusedStop plain (fun _ _ _ => rfl) service code handle

theorem not_refusedStop_of_decided (decided : verdict? errand name ev = some e) (service : Handle) (code : Nat)
    (handle : Option Handle) : refusedStop service code handle ∉ [ev] := by
  intro h
  rw [← List.mem_singleton.1 h, verdict?_none rfl rfl rfl] at decided
  cases decided

/-- Each errand has its own verdicts. -/
theorem arises_of_decided (decided : verdict? errand name ev = some e) :
    Arises errand name log e ∧ isVerdict e = true := by
  unfold verdict? at decided
  split at decided
  · obtain rfl := Option.some.inj decided
    exact ⟨.denied, rfl⟩
  · split at decided
    · split at decided
      · obtain rfl := Option.some.inj decided
        exact ⟨.present rfl, rfl⟩
      · cases decided
    · cases decided
    · rename_i other _
      split at decided
      · obtain rfl := Option.some.inj decided
        exact ⟨.missing other, rfl⟩
      · cases decided

theorem quiet_of_plain (plain : ev.isPlain = true) : ev.isQuiet = true := by
  cases ev with
  | ended pid => cases plain
  | exchange e =>
    obtain ⟨call, reply, handle⟩ := e
    cases call <;> first | rfl | cases plain

theorem AfterRefusal.followed (h : AfterRefusal Answered log) : AfterRefusal Followed log :=
  fun past service code handle rest hlog => followed_of_answered (h past service code handle rest hlog)

theorem AfterRefusal.answered_snoc (h : AfterRefusal Answered log)
    (clear : ∀ service code handle, refusedStop service code handle ∉ [ev]) : AfterRefusal Answered (log ++ [ev]) :=
  h.append (fun _ _ _ h => h.append _) clear

theorem AfterRefusal.followed_plain (h : AfterRefusal Followed log) (plain : ev.isPlain = true) :
    AfterRefusal Followed (log ++ [ev]) :=
  h.append (fun _ _ _ h => h.snoc (quiet_of_plain plain)) (not_refusedStop_of_plain plain)

theorem Calm.plain (h : Calm errand name log) (plain : ev.isPlain = true) : Calm errand name (log ++ [ev]) where
  decided := (verdicts_snoc (verdict?_plain plain)).trans h.decided
  followed := h.followed.followed_plain plain

/-- A program that does not fail, or fails with an error that no exchange decides. -/
theorem Calm.told (h : Calm errand name log) (arises : ∀ e, failure = some e → Arises errand name log e)
    (undecided : ∀ e, failure = some e → isVerdict e = false)
    (answered : errand ≠ .uninstall → AfterRefusal Answered log ∨ ∃ reason, failure = some (.manager reason)) :
    Told errand name failure log where
  decided := by
    rw [h.decided, Option.filter_eq_none_iff.2 fun e he => by rw [undecided e he]; exact Bool.false_ne_true]
    rfl
  last denied := by cases undecided _ denied
  arises := arises
  followed := h.followed
  answered := answered

namespace Clean

theorem calm (h : Clean errand name log) : Calm errand name log := ⟨h.decided, h.answered.followed⟩

theorem snoc (h : Clean errand name log) (idle : verdict? errand name ev = none)
    (clear : ∀ service code handle, refusedStop service code handle ∉ [ev]) : Clean errand name (log ++ [ev]) where
  decided := (verdicts_snoc idle).trans h.decided
  answered := h.answered.answered_snoc clear

theorem plain (h : Clean errand name log) (plain : ev.isPlain = true) : Clean errand name (log ++ [ev]) :=
  h.snoc (verdict?_plain plain) (not_refusedStop_of_plain plain)

theorem succeeds (h : Clean errand name log) : Told errand name none log :=
  h.calm.told nofun nofun fun _ => .inl h.answered

/-- A program fails with an error that no exchange decides. -/
theorem fails (h : Clean errand name log) (arises : Arises errand name log e) (undecided : isVerdict e = false) :
    Told errand name (some e) log :=
  h.calm.told (fun _ he => Option.some.inj he ▸ arises) (fun _ he => Option.some.inj he ▸ undecided)
    fun _ => .inl h.answered

/-- An exchange decides the error. -/
theorem decides (h : Clean errand name log) (decided : verdict? errand name ev = some e) :
    Told errand name (some e) (log ++ [ev]) where
  decided := by
    have verdict : Arises errand name log e ∧ isVerdict e = true := arises_of_decided decided
    rw [verdicts_decided decided, h.decided, Option.filter_some, if_pos verdict.2]
    rfl
  last _ := by
    rw [List.dropLast_concat]
    exact h.decided
  arises _ he := Option.some.inj he ▸ (arises_of_decided decided).1
  followed := (h.answered.answered_snoc (not_refusedStop_of_decided decided)).followed
  answered _ := .inl (h.answered.answered_snoc (not_refusedStop_of_decided decided))

end Clean

theorem Told.plain (h : Told errand name failure log) (admitted : failure ≠ some .permissionDenied)
    (plain : ev.isPlain = true) : Told errand name failure (log ++ [ev]) where
  decided := (verdicts_snoc (verdict?_plain plain)).trans h.decided
  last denied := absurd denied admitted
  arises e he := (h.arises e he).append _
  followed := h.followed.followed_plain plain
  answered other := by
    obtain answered | failed := h.answered other
    · exact .inl (answered.answered_snoc (not_refusedStop_of_plain plain))
    · exact .inr failed

end Accounts

end ServiceControl.Windows
