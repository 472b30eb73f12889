import Mathlib.Data.Set.Insert
import ServiceControl.Proofs.Windows.Exchanges
/-!
# What an install leaves behind

On an install a service is created and a key for its log source is made, and if the log source is refused the service is
deleted again.  The key is not: where Windows has made it and then refuses a value of it, it stays, and the next install
finds it there.  What is created, made and deleted is counted event by event (`Tally`), each end of an install has its
count (`Ends`), and the count tells what has become of the keys of a registry that replies as it did
(`Registry.Meets`).  Main statement: what an install leaves behind (`Governs.install_leaves`).
-/
namespace ServiceControl.Windows

open Cell (Ensures Yields Either)

/-! ## Events that leave something behind -/

namespace Event

/-- The service that is created. -/
def created? : Event → Option Handle
  | exchange ⟨.createService .., _, handle⟩ => handle
  | _ => none

/-- The service that is deleted. -/
def deleted? : Event → Option Handle
  | exchange ⟨.deleteService service, reply, _⟩ => if (replied reply).isOk then some service else none
  | _ => none

/-- The key that is new. -/
def made? : Event → Option String
  | exchange ⟨.createKey path _, reply, some _⟩ => if reply = .existing then none else some path
  | _ => none

/-- The key that was to be made and is there already. -/
def found? : Event → Option String
  | exchange ⟨.createKey path _, .existing, some _⟩ => some path
  | _ => none

/-- The key that is deleted. -/
def lost? : Event → Option String
  | exchange ⟨.deleteKey path, reply, _⟩ => if (replied reply).isOk then some path else none
  | _ => none

/-- A value is refused. -/
def unset : Event → Bool
  | exchange ⟨.setValue .., .fails _, _⟩ => true
  | _ => false

end Event

/-! ## The keys of the registry -/

/-- **A registry that replies like this**: a key that is new was missing, one that is found was there, and one that is
deleted is gone. -/
structure Registry.Meets (keys : Set String) (ev : Event) (keys' : Set String) : Prop where
  missing : ∀ path, ev.made? = some path → path ∉ keys
  there : ∀ path, ev.found? = some path → path ∈ keys
  after : ∀ path, path ∈ keys' ↔ ev.made? = some path ∨ path ∈ keys ∧ ev.lost? ≠ some path

/-- Where no key is deleted, those are there that were there and those that are new. -/
theorem keys_kept {keys keys' : Set String} {log : List Event} (h : Trail Registry.Meets keys log keys')
    (kept : log.filterMap Event.lost? = []) (path : String) :
    (path ∈ keys' ↔ path ∈ log.filterMap Event.made? ∨ path ∈ keys) ∧
      (path ∈ log.filterMap Event.made? → path ∉ keys) := by
  induction h with
  | nil _ => exact ⟨(or_iff_right List.not_mem_nil).symm, nofun⟩
  | @cons keys keys₁ _ ev log first _ ih =>
    rw [List.filterMap_eq_nil_iff] at kept
    obtain ⟨hafter, hmissing⟩ := ih (List.filterMap_eq_nil_iff.2 fun ev hev => kept ev (List.mem_cons_of_mem _ hev))
    have hfirst : path ∈ keys₁ ↔ ev.made? = some path ∨ path ∈ keys := by
      rw [first.after, kept ev List.mem_cons_self]
      simp
    have hmade : path ∈ (ev :: log).filterMap Event.made? ↔
        path ∈ log.filterMap Event.made? ∨ ev.made? = some path := by
      simp only [List.mem_filterMap, List.mem_cons, exists_eq_or_imp, or_comm]
    constructor
    · rw [hafter, hfirst, hmade, or_assoc]
    · rw [hmade]
      rintro (new | new)
      · exact fun old => hmissing new (hfirst.2 (.inr old))
      · exact first.missing path new

/-- A registry from which nothing is found or deleted can have replied like this. -/
theorem registry_exists (log : List Event) (keys : Set String) (unfound : log.filterMap Event.found? = [])
    (kept : log.filterMap Event.lost? = []) (once : (log.filterMap Event.made?).Nodup)
    (missing : ∀ path ∈ log.filterMap Event.made?, path ∉ keys) : ∃ keys', Trail Registry.Meets keys log keys' := by
  induction log generalizing keys with
  | nil => exact ⟨keys, .nil _⟩
  | cons ev log ih =>
    rw [List.filterMap_eq_nil_iff] at unfound kept
    let next : Set String := {path | ev.made? = some path ∨ path ∈ keys ∧ ev.lost? ≠ some path}
    have hmeets : Registry.Meets keys ev next := by
      refine ⟨fun path new => ?_, fun path old => ?_, fun _ => Iff.rfl⟩
      · exact missing path (List.mem_filterMap.2 ⟨ev, List.mem_cons_self, new⟩)
      · rw [unfound ev List.mem_cons_self] at old
        cases old
    have hrest : ∀ path ∈ log.filterMap Event.made?, ev.made? ≠ some path ∧ path ∉ keys := by
      intro path hpath
      obtain ⟨ev', hev', new⟩ := List.mem_filterMap.1 hpath
      refine ⟨fun first => ?_, missing path (List.mem_filterMap.2 ⟨ev', List.mem_cons_of_mem _ hev', new⟩)⟩
      rw [List.filterMap_cons_some first, List.nodup_cons] at once
      exact once.1 hpath
    obtain ⟨keys', htrail⟩ := ih next
      (List.filterMap_eq_nil_iff.2 fun ev hev => unfound ev (List.mem_cons_of_mem _ hev))
      (List.filterMap_eq_nil_iff.2 fun ev hev => kept ev (List.mem_cons_of_mem _ hev))
      (once.sublist ((List.sublist_cons_self ev log).filterMap _))
      fun path hpath there => there.elim (hrest path hpath).1 fun old => (hrest path hpath).2 old.1
    exact ⟨keys', .cons hmeets htrail⟩

/-! ## Counting -/

/-- What was created, deleted and made so far, the latest first. -/
structure Tally where
  created : List Handle := []
  deleted : List Handle := []
  made : List String := []
  lost : List String := []
  unset : Bool := false
  deriving DecidableEq, Repr

namespace Tally

def add (t : Tally) (ev : Event) : Tally where
  created := ev.created?.toList ++ t.created
  deleted := ev.deleted?.toList ++ t.deleted
  made := ev.made?.toList ++ t.made
  lost := ev.lost?.toList ++ t.lost
  unset := ev.unset || t.unset

/-- A service is there, and nothing else. -/
def entry (service : Handle) : Tally := { created := [service] }

/-- A service is there, and a key for its log source. -/
def keyed (name : String) (service : Handle) (unset : Bool) : Tally :=
  { created := [service], made := [upToNul (logSourcePath name)], unset }

end Tally

def tally (log : List Event) : Tally := log.foldl Tally.add {}

/-- This holds of what was counted. -/
def Counted (Ψ : Tally → Prop) (log : List Event) : Prop := Ψ (tally log)

section Tally

theorem tally_snoc (log : List Event) (ev : Event) : tally (log ++ [ev]) = (tally log).add ev := by
  unfold tally
  rw [List.foldl_append]
  rfl

/-- A list that grows by what each event tells. -/
theorem foldl_told {α : Type} {told : Event → Option α} (list : Tally → List α)
    (adds : ∀ t ev, list (t.add ev) = (told ev).toList ++ list t) (log : List Event) (t : Tally) :
    list (log.foldl Tally.add t) = (log.filterMap told).reverse ++ list t := by
  induction log generalizing t with
  | nil => rfl
  | cons ev log ih =>
    rw [List.foldl_cons, ih, adds]
    cases h : told ev with
    | none =>
      rw [List.filterMap_cons_none h]
      rfl
    | some a =>
      rw [List.filterMap_cons_some h, List.reverse_cons, List.append_assoc]
      rfl

theorem made_tally (log : List Event) : (tally log).made = (log.filterMap Event.made?).reverse :=
  (foldl_told Tally.made (fun _ _ => rfl) log {}).trans (List.append_nil _)

theorem lost_tally (log : List Event) : (tally log).lost = (log.filterMap Event.lost?).reverse :=
  (foldl_told Tally.lost (fun _ _ => rfl) log {}).trans (List.append_nil _)

end Tally

/-! ## The ends of an install -/

/-- Why an install is refused before anything is created. -/
def Early (name : String) (e : ServiceError) : Prop :=
  e = .permissionDenied ∨ e = .alreadyExists name ∨ ∃ reason, e = .manager reason

/-- The log source of a new service is refused: no key was made for it, or a value of its key was not taken. -/
inductive Unsourced (name : String) (service : Handle) : Tally → Prop
  | unmade : Unsourced name service (.entry service)
  | unset : Unsourced name service (.keyed name service true)

/-- **The ends of an install**, each with what was created, deleted and made.  Nothing of the registry is undone. -/
inductive Ends (name : String) : Except ServiceError Unit → Tally → Prop
  | refused {e : ServiceError} (early : Early name e) : Ends name (.error e) {}
  | installed (service : Handle) : Ends name (.ok ()) (.keyed name service false)
  | rolledBack {service : Handle} {t : Tally} (unsourced : Unsourced name service t) (reason : String) :
      Ends name (.error (.logSourceRegistration name reason)) { t with deleted := [service] }
  | stuck {service : Handle} {t : Tally} (unsourced : Unsourced name service t) (reason rollback : String) :
      Ends name (.error (.rollbackFailed name reason rollback)) t

section Ends

variable {name : String} {r : Except ServiceError Unit} {t : Tally}

theorem Ends.lost (h : Ends name r t) : t.lost = [] := by
  cases h with
  | refused _ => rfl
  | installed service => rfl
  | rolledBack unsourced _ => cases unsourced <;> rfl
  | stuck unsourced _ _ => cases unsourced <;> rfl

/-- A key is made if the install is well, or if a value of it is refused. -/
theorem Ends.made (h : Ends name r t) :
    t.made = if r = .ok () ∨ t.unset = true then [upToNul (logSourcePath name)] else [] := by
  cases h with
  | refused _ => rfl
  | installed service => rfl
  | rolledBack unsourced _ => cases unsourced <;> rfl
  | stuck unsourced _ _ => cases unsourced <;> rfl

/-- **The keys after an install**: a key that was made stays, and an install that finds it there is not well. -/
theorem Ends.keys {log : List Event} {keys keys' : Set String} (h : Ends name r (tally log))
    (trail : Trail Registry.Meets keys log keys') :
    keys' = {path | path ∈ (tally log).made ∨ path ∈ keys} ∧ ∀ path ∈ (tally log).made, path ∉ keys := by
  have hlost : log.filterMap Event.lost? = [] := by
    have hreverse := h.lost
    rwa [lost_tally, List.reverse_eq_nil_iff] at hreverse
  have hkept := keys_kept trail hlost
  simp only [made_tally, List.mem_reverse]
  exact ⟨Set.ext fun path => (hkept path).1, fun path => (hkept path).2⟩

end Ends

/-! ## Calls, counted -/

/-- A program fails with such an error, and this holds either way. -/
def Failing {β α : Type} (E : ServiceError → Prop) (P : Sight β → Prop) : Except ServiceError α → Sight β → Prop :=
  Either (fun _ => P) fun e σ => E e ∧ P σ

namespace Lookout

variable {γ κ α : Type} {o : Lookout γ κ} {d : Desk κ} {f : Function} {c : Call} {Ψ : Tally → Prop} {name : String}

/-- This holds of what was counted since. -/
def counts (o : Lookout γ κ) (d : Desk κ) (Ψ : Tally → Prop) : Sight (Desk κ) → Prop := o.since d (Counted Ψ)

theorem counts_mono {Ω : Tally → Prop} (h : ∀ t, Ψ t → Ω t) (σ : Sight (Desk κ)) (hσ : o.counts d Ψ σ) :
    o.counts d Ω σ :=
  since_mono (fun _ => h _) σ hσ

variable (clear : o.Clear)
include clear

theorem invoke_counts {Ω : Reply → Tally → Prop} (called : c.function? = some f) (closes : c.closes? = none)
    (obtains : c.obtains = false) (adds : ∀ t reply, Ψ t → Ω reply (t.add (.exchange ⟨c, reply, none⟩))) :
    o.place.Ensures (o.counts d Ψ) (invoke o.cell f c) fun reply => o.counts d (Ω reply) := by
  refine invoke_since (Ψ := fun reply => Counted (Ω reply)) clear called closes obtains fun log reply h => ?_
  unfold Counted
  rw [tally_snoc]
  exact adds _ reply h

/-- What holds of what was counted unless the call was refused, and what holds if it was. -/
def Replying (Φ Ξ : Tally → Prop) : Reply → Tally → Prop
  | .fails _ => Ξ
  | _ => Φ

theorem acquire_counts {Ω : Handle × Reply → Tally → Prop} (called : c.function? = some f) (closes : c.closes? = none)
    (obtains : c.obtains = true)
    (granted : ∀ t reply h, Ψ t → reply.Grants → Ω (h, reply) (t.add (.exchange ⟨c, reply, some h⟩)))
    (refused : ∀ t code, Ψ t → Ψ (t.add (.exchange ⟨c, .fails code, none⟩))) :
    o.place.Yields (o.counts d Ψ) (acquire o.cell f c) (Either (fun r => o.counts d (Ω r)) fun _ => o.counts d Ψ) := by
  refine acquire_replied (Ψ := fun r => Counted (Ω r)) (Ξ := fun _ => Counted Ψ) clear called closes obtains ?_ ?_
  · intro log reply h hlog grants
    unfold Counted
    rw [tally_snoc]
    exact granted _ reply h hlog grants
  · intro log code hlog
    unfold Counted
    rw [tally_snoc]
    exact refused _ code hlog

/-- A handle that is closed again was not made by that. -/
theorem close_counts {g : Handle → Call} {h : Handle} (called : (g h).function? = some f)
    (closes : (g h).closes? = some h) (plain : ∀ (t : Tally) reply, t.add (.exchange ⟨g h, reply, none⟩) = t) :
    o.place.Ensures (o.counts d Ψ) (close o.cell f g h) fun _ => o.counts d Ψ := by
  refine close_since (Ψ := Counted Ψ) clear called closes fun log reply hlog => ?_
  unfold Counted
  rw [tally_snoc, plain]
  exact hlog

theorem closeHandle_counts (h : Handle) :
    o.place.Ensures (o.counts d Ψ) (closeHandle o.cell h) fun _ => o.counts d Ψ :=
  close_counts clear rfl rfl fun _ _ => rfl

/-! ### Sessions and entries -/

theorem connect_counts :
    o.place.Yields (o.counts d Ψ) (connect o.cell) (Failing (Early name) (o.counts d Ψ)) := by
  have hearly (fault : Fault) : Early name (connect.explain fault) := by
    unfold connect.explain
    split
    · exact .inl rfl
    · exact .inr (.inr ⟨_, rfl⟩)
  have hacquire := acquire_counts (f := .openManager) (c := .openManager Code.managerAccess) (d := d) (Ψ := Ψ)
    (Ω := fun _ => Ψ) clear rfl rfl rfl (fun _ _ _ h _ => h) fun _ _ h => h
  refine connect_yields (hacquire.weaken fun r σ hσ => ?_)
  cases r with
  | ok _ => exact hσ
  | error fault => exact ⟨hearly fault, hσ⟩

/-- A service that is not found is missing, or it is not told. -/
def Unfound (name : String) (e : ServiceError) : Prop := e = .notInstalled name ∨ ∃ reason, e = .manager reason

theorem openService_counts (m : Handle) :
    o.place.Yields (o.counts d Ψ) (openService o.cell m name) (Failing (Unfound name) (o.counts d Ψ)) := by
  have hunfound (fault : Fault) : Unfound name (openService.explain name fault) := by
    unfold openService.explain
    split
    · exact .inl rfl
    · exact .inr ⟨_, rfl⟩
  refine openService_yields (fun checked => ?_) fun fault σ _ hσ => ⟨hunfound fault, hσ⟩
  have hacquire := acquire_counts (f := .openService) (c := .openService m checked Code.openAccess) (d := d) (Ψ := Ψ)
    (Ω := fun _ => Ψ) clear rfl rfl rfl (fun _ _ _ h _ => h) fun _ _ h => h
  refine hacquire.weaken fun r σ hσ => ?_
  cases r with
  | ok _ => exact hσ
  | error fault => exact ⟨hunfound fault, hσ⟩

theorem createService_counts (m : Handle) {spec : ServiceSpec} (named : spec.name = name) :
    o.place.Yields (o.counts d (· = {})) (createService o.cell m spec)
      (Either (fun h => o.counts d (· = .entry h)) fun e σ => Early name e ∧ o.counts d (· = {}) σ) := by
  have hearly (fault : Fault) : Early name (createService.explain spec fault) := by
    unfold createService.explain
    split
    · exact .inr (.inl (congrArg _ named))
    · exact .inr (.inr ⟨_, rfl⟩)
  refine createService_yields (R := fun h => o.counts d (· = .entry h)) (fun new => ?_)
    (fun fault σ _ hσ => ⟨hearly fault, hσ⟩) (fun h text => ?_) fun _ _ hσ => hσ
  · have hacquire := acquire_counts (f := .createService) (c := .createService m new Code.createAccess) (d := d)
      (Ψ := (· = {})) (Ω := fun r => (· = .entry r.1)) clear rfl rfl rfl (by rintro _ _ _ rfl _; rfl)
      (by rintro _ _ rfl; rfl)
    refine hacquire.weaken fun r σ hσ => ?_
    cases r with
    | ok _ => exact hσ
    | error fault => exact ⟨hearly fault, hσ⟩
  · exact invoke_counts (Ω := fun _ => (· = .entry h)) clear rfl rfl rfl fun _ _ ht => ht

theorem setRecovery_counts (h : Handle) (action : RecoveryAction) :
    o.place.Yields (o.counts d Ψ) (setRecovery o.cell h action) (Bluntly (o.counts d Ψ)) :=
  order_bluntly (invoke_counts (c := .setFailureActions h [failureAction action]) (Ω := fun _ => Ψ) clear rfl rfl rfl
    fun _ _ ht => ht) _

/-- A service whose log source was refused may be deleted again. -/
theorem delete_counts (h : Handle) :
    o.place.Yields (o.counts d (Unsourced name h)) (delete o.cell h)
      (Either (fun _ => o.counts d fun t => ∃ t₀, Unsourced name h t₀ ∧ t = { t₀ with deleted := [h] })
        fun _ => o.counts d (Unsourced name h)) := by
  let Deleted (t : Tally) : Prop := ∃ t₀, Unsourced name h t₀ ∧ t = { t₀ with deleted := [h] }
  have hinvoke := invoke_counts (f := .deleteService) (c := .deleteService h) (d := d) (Ψ := Unsourced name h)
    (Ω := Replying Deleted (Unsourced name h)) clear rfl rfl rfl fun t reply ht => by
      cases reply with
      | fails code => exact ht
      | _ => exact ⟨t, ht, by cases ht <;> rfl⟩
  have hrequest := request_replied (R := Either (fun _ => o.counts d Deleted) fun _ => o.counts d (Unsourced name h))
    (hinvoke.weaken fun reply σ hσ => by cases reply <;> exact hσ)
  refine explained_yields (hrequest.bind (fun _ => ?_) ?_)
  · exact .pure fun _ hσ => hσ
  · exact fun _ _ hσ => hσ

/-! ### Log sources -/

section Source

variable {h : Handle}

theorem createKey_counts :
    o.place.Yields (o.counts d (· = .entry h)) (createKey o.cell (logSourcePath name))
      (Either (fun r => o.counts d (· = if r.2 then .entry h else .keyed name h false))
        fun _ => o.counts d (· = .entry h)) := by
  have hacquire := acquire_counts (f := .createKey)
    (c := .createKey (upToNul (logSourcePath name)) Code.keyReadWrite) (d := d) (Ψ := (· = .entry h))
    (Ω := fun r => (· = if r.2 = .existing then .entry h else .keyed name h false)) clear rfl rfl rfl
    (by rintro _ reply key rfl grants
        cases reply with
        | existing => rfl
        | fails code => exact absurd rfl (grants code)
        | _ => rfl)
    (by rintro _ code rfl; rfl)
  unfold createKey
  refine (Yields.lift hacquire).bind_ok fun r => ?_
  cases r with
  | ok r =>
    refine .pure fun σ hσ => ?_
    simp only [Either, decide_eq_true_eq]
    exact hσ
  | error fault => cases fault <;> exact .throw fun _ hσ => hσ

theorem setValue_counts (key : Handle) (value : String) (data : RegistryData) :
    o.place.Yields (o.counts d (· = .keyed name h false)) (setValue o.cell key value data)
      (Either (fun _ => o.counts d (· = .keyed name h false)) fun _ => o.counts d (Unsourced name h)) := by
  have hinvoke := invoke_counts (f := .setValue) (c := .setValue key value data) (d := d)
    (Ψ := (· = .keyed name h false)) (Ω := Replying (· = .keyed name h false) (Unsourced name h)) clear rfl rfl rfl (by
      rintro _ reply rfl
      cases reply with
      | fails code => exact .unset
      | _ => rfl)
  unfold setValue
  refine (Yields.lift hinvoke).bind_ok fun reply => ?_
  cases reply with
  | fails code => exact .throw fun _ hσ => hσ
  | _ => exact .pure fun _ hσ => hσ

theorem registerLogSource_counts :
    o.place.Yields (o.counts d (· = .entry h)) (registerLogSource o.cell name)
      (Either (fun _ => o.counts d (· = .keyed name h false)) fun _ => o.counts d (Unsourced name h)) := by
  have hset (key : Handle) (value : String) (data : RegistryData) :
      o.place.Yields (o.counts d (· = .keyed name h false)) (setValue o.cell key value data) _ :=
    setValue_counts clear key value data
  have hclose (key : Handle) (r : Except ServiceError Unit) :
      o.place.Ensures
        (Either (fun _ => o.counts d (· = .keyed name h false)) (fun _ => o.counts d (Unsourced name h)) r)
        (closeKey o.cell key) fun _ =>
          Either (fun _ => o.counts d (· = .keyed name h false)) (fun _ => o.counts d (Unsourced name h)) r := by
    cases r with
    | ok _ => exact close_counts clear rfl rfl fun _ _ => rfl
    | error e => exact close_counts clear rfl rfl fun _ _ => rfl
  have hunmade (σ : Sight (Desk κ)) (hσ : o.counts d (· = .entry h) σ) : o.counts d (Unsourced name h) σ :=
    counts_mono (fun _ ht => ht ▸ .unmade) σ hσ
  unfold registerLogSource
  refine Yields.bind ?_ (fun _ => (Yields.log _ _).of_succeeds fun _ _ hσ => hσ) fun _ _ hσ => hσ
  refine (createKey_counts clear).holding (fun _ => hunmade) ?_ fun r => hclose r.1
  rintro ⟨key, existed⟩
  cases existed with
  | true => exact .throw_bind hunmade
  | false =>
    refine (hset key _ _).bind (fun _ => ?_) fun _ _ hσ => hσ
    exact (hset key _ _).bind (fun _ => hset key _ _) fun _ _ hσ => hσ

end Source

end Lookout

/-! ## Installing -/

namespace Governs

open Lookout

variable {γ κ : Type} [Background γ] {c : Controller γ Handle Handle} {o : Lookout γ κ} (governs : Governs c o)
  {d : Desk κ}
include governs

theorem checkAbsent_counts {Ψ : Tally → Prop} (m : Handle) :
    o.place.Yields (o.counts d Ψ) (c.checkAbsent m) (Failing (Early c.name) (o.counts d Ψ)) := by
  unfold Controller.checkAbsent
  rw [governs.gateway]
  refine Yields.attempt_bind (openService_counts governs.toClear m) fun r => ?_
  cases r with
  | ok h =>
    refine (Yields.lift (closeHandle_counts governs.toClear h)).bind_ok fun _ => ?_
    exact .throw fun _ hσ => ⟨.inr (.inl rfl), hσ⟩
  | error e =>
    rintro s ⟨rfl | ⟨reason, rfl⟩, hs⟩
    · exact (Yields.pure fun _ hσ => hσ : o.place.Yields (o.counts d Ψ) _ _) s hs
    · exact (Yields.throw fun _ hσ => ⟨.inr (.inr ⟨reason, rfl⟩), hσ⟩ : o.place.Yields (o.counts d Ψ) _ _) s hs

/-- The ends of an install that come after the service was created. -/
theorem sourceEntry_counts (h : Handle) :
    o.place.Yields (o.counts d (· = .entry h)) (c.registerLogSource h)
      (Either (fun _ => o.counts d (· = .keyed c.name h false)) fun e => o.counts d (Ends c.name (.error e))) := by
  unfold Controller.registerLogSource
  rw [governs.gateway]
  refine Yields.attempt_bind (registerLogSource_counts governs.toClear) fun r => ?_
  cases r with
  | ok _ => exact .pure fun _ hσ => hσ
  | error e =>
    refine (Yields.log _ _).bind_ok fun _ => (delete_counts governs.toClear h).attempt_bind fun r => ?_
    cases r with
    | ok _ =>
      refine .throw (counts_mono ?_)
      rintro _ ⟨t, unsourced, rfl⟩
      exact .rolledBack unsourced _
    | error rollback => exact .throw (counts_mono fun _ unsourced => .stuck unsourced _ _)

theorem install_counts :
    o.place.Yields (o.counts d (· = {})) c.install fun r => o.counts d (Ends c.name r) := by
  have hrefused (e : ServiceError) (σ : Sight (Desk κ)) (hσ : Early c.name e ∧ o.counts d (· = {}) σ) :
      o.counts d (Ends c.name (.error e)) σ :=
    counts_mono (fun _ ht => ht ▸ .refused hσ.1) σ hσ.2
  have hclose (handle : Handle) (r : Except ServiceError Unit) :
      o.place.Ensures (o.counts d (Ends c.name r)) (closeHandle o.cell handle) fun _ => o.counts d (Ends c.name r) :=
    closeHandle_counts governs.toClear handle
  unfold Controller.install Controller.withSession
  rw [governs.gateway]
  refine (Yields.log _ _).bind_ok fun _ => ?_
  refine (connect_counts governs.toClear).holding hrefused (fun m => ?_) hclose
  refine (checkAbsent_counts governs m).bind (fun _ => .result_bind (fun spec resolved => ?_) ?_) hrefused
  · refine Yields.bind (R := fun r => o.counts d (Ends c.name r)) ?_ (fun _ => ?_) fun _ _ hσ => hσ
    · have hcreate := createService_counts (d := d) governs.toClear m (ServiceSpec.name_ofConfig resolved)
      refine hcreate.holding hrefused (fun h => ?_) hclose
      refine (sourceEntry_counts governs h).bind (fun _ => ?_) fun _ _ hσ => hσ
      have hinstalled (σ : Sight (Desk κ)) (hσ : o.counts d (· = .keyed c.name h false) σ) :
          o.counts d (Ends c.name (.ok ())) σ :=
        counts_mono (fun _ ht => ht ▸ .installed h) σ hσ
      split
      · refine (setRecovery_counts governs.toClear h .restartNow).attempt_bind fun r => ?_
        cases r with
        | ok _ => exact .pure hinstalled
        | error e => exact (Yields.log _ _).of_succeeds fun _ σ hσ => hinstalled σ hσ.2
      · exact .pure hinstalled
    · exact (Yields.log _ _).of_succeeds fun _ _ hσ => hσ
  · intro e unresolved σ hσ
    obtain ⟨reason, rfl⟩ := ServiceSpec.error_ofConfig unresolved
    exact hrefused _ σ ⟨.inr (.inr ⟨_, rfl⟩), hσ⟩

/-- **What an install leaves behind**, whatever Windows replies.  If the log source of a new service is refused and the
service is deleted again, the keys are those of before just where no value of a new key was refused; otherwise that key
stays, and an install that finds it there does not succeed. -/
theorem install_leaves (s : Scene γ) :
    let ran := c.install.run.run s
    let before := o.place.get s.world
    let after := o.place.get ran.2.world
    let key := upToNul (logSourcePath c.name)
    ∃ log, Trail (Desk.Meets o.mark) before log after ∧
      after.machine.calls = (calls log).reverse ++ before.machine.calls ∧ Ends c.name ran.1 (tally log) ∧
      ∀ keys keys', Trail Registry.Meets keys log keys' →
        (∀ n reason, ran.1 = .error (.logSourceRegistration n reason) →
          if (tally log).unset then key ∉ keys ∧ keys' = insert key keys else keys' = keys) ∧
        (key ∈ keys → ran.1 ≠ .ok ()) := by
  intro ran before after key
  obtain ⟨r, hr, log, trail, ends⟩ := install_counts governs (d := before) s ⟨[], .nil _, rfl⟩
  obtain rfl : ran.1 = r := Option.some.inj hr
  refine ⟨log, trail, (trail_kept trail).1, ends, fun keys keys' htrail => ?_⟩
  obtain ⟨hafter, hmissing⟩ := ends.keys htrail
  have hmade := ends.made
  constructor
  · intro n reason failed
    rw [failed] at hmade
    cases hunset : (tally log).unset with
    | true =>
      have hkey : (tally log).made = [key] := hmade.trans (if_pos (.inr hunset))
      rw [hkey] at hafter hmissing
      refine ⟨hmissing key List.mem_cons_self, hafter.trans (Set.ext fun path => ?_)⟩
      exact or_congr_left List.mem_singleton
    | false =>
      have hnone : (tally log).made = [] := hmade.trans (if_neg (by simp [hunset]))
      rw [hnone] at hafter
      exact hafter.trans (Set.ext fun path => or_iff_right List.not_mem_nil)
  · intro there well
    have hkey : (tally log).made = [key] := hmade.trans (if_pos (.inl well))
    rw [hkey] at hmissing
    exact hmissing key List.mem_cons_self there

end Governs

section Refused

open Scenario.Win32 (lookout)

/-- Windows makes the key of the log source and then refuses a value of it. -/
theorem install_leaves_unset :
    let role : Scenario.Role := { config := { name := "svcA", executable := some "C:\\svcA\\svcA.exe" } }
    let c := role.controller 0 Scenario.Win32.gateway Scenario.Win32.terminate (.ok "svcA.exe")
    let s : Scene Scenario.Win32.World := { world := { manager := { windows := { replies := fun
      | .openService => [.fails Code.serviceDoesNotExist]
      | .setValue => [.fails Code.accessDenied]
      | _ => [] } } } }
    let ran := c.install.run.run s
    let key := upToNul (logSourcePath "svcA")
    Governs c lookout ∧ (∃ reason, ran.1 = .error (.logSourceRegistration "svcA" reason)) ∧
      ∃ log keys', Ends "svcA" ran.1 (tally log) ∧ (tally log).unset = true ∧ Trail Registry.Meets ∅ log keys' ∧
        keys' = {key} := by
  intro role c s ran key
  have governs : Governs c lookout := Scenario.Win32.governs rfl _
  obtain ⟨log, trail, hcalls, ends, hkeys⟩ := governs.install_leaves s
  -- the script tells the replies, so the calls tell what has happened
  have hspared : log.filterMap Event.pid? = [] := by
    have hwork : (lookout.place.get ran.2.world).work = [] := by decide +kernel
    rw [(trail_kept trail).2] at hwork
    exact List.reverse_eq_nil_iff.1 ((List.foldl_flip_cons_eq_append'.trans (List.append_nil _)).symm.trans hwork)
  have hlog : log = ((lookout.place.get s.world).machine.replay
      (lookout.place.get ran.2.world).machine.calls.reverse).map .exchange := by
    rw [hcalls, show (lookout.place.get s.world).machine.calls = [] from rfl, List.append_nil, List.reverse_reverse]
    exact trail_replayed trail hspared
  have hunset : (tally log).unset = true := by
    rw [hlog]
    decide +kernel
  have hfailed : ran.1 = .error (.logSourceRegistration "svcA"
      (ServiceError.manager s!"failed to set registry value EventMessageFile: {systemText 5}").message) := by
    decide +kernel
  obtain ⟨keys', htrail⟩ := registry_exists log ∅ (by rw [hlog]; decide +kernel) (by rw [hlog]; decide +kernel)
    (by rw [hlog]; decide +kernel) fun _ _ => Set.notMem_empty _
  have hafter := (hkeys ∅ keys' htrail).1 _ _ hfailed
  rw [if_pos hunset] at hafter
  exact ⟨governs, ⟨_, hfailed⟩, log, keys', ends, hunset, htrail, hafter.2.trans (insert_empty_eq key)⟩

/-- **A key that a failed install has made is not deleted, and the next install fails for it.** -/
theorem install_leaves_key :
    let role : Scenario.Role := { config := { name := "svcA", executable := some "C:\\svcA\\svcA.exe" } }
    let c := role.controller 0 Scenario.Win32.gateway Scenario.Win32.terminate (.ok "svcA.exe")
    let m : Machine := { replies := fun
      | .openService => [.fails Code.serviceDoesNotExist]
      | .createKey => [.succeeds, .existing]
      | .setValue => [.fails Code.accessDenied]
      | _ => [] }
    let ran := c.install.run.run { world := { manager := { windows := m } } }
    let log := (m.replay (ran.2.world.manager.windows.calls.reverse)).map Event.exchange
    let reason := (ServiceError.manager s!"failed to set registry value EventMessageFile: {systemText 5}").message
    let again := (ServiceError.manager (logSourcePath "svcA" ++ " registry key already exists")).message
    ran.1 = .error (.logSourceRegistration "svcA" reason) ∧
      log.filterMap Event.made? = [upToNul (logSourcePath "svcA")] ∧ log.filterMap Event.lost? = [] ∧
      (c.install.run.run ran.2).1 = .error (.logSourceRegistration "svcA" again) := by
  decide +kernel

end Refused

end ServiceControl.Windows
