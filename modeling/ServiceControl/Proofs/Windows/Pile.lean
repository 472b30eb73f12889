import ServiceControl.Proofs.Windows.Exchanges
import Mathlib.Data.List.Nodup
/-!
# Piles of handles

Handles may be held as a pile: what was obtained last is closed first, and nothing is used but what lies in the pile
(`Handed`).  What was obtained is then what was closed and what is still held (`trail_perm`), and a pile that is empty in
the beginning and in the end gives all that there is to say of the calls alone (`custody_of_trail`).
-/
namespace ServiceControl.Windows

open scoped List

/-! ## Handles in the calls -/

inductive Kind
  | manager
  | service
  | key
  deriving DecidableEq, Repr

/-- A handle that was obtained. -/
structure Item where
  kind : Kind
  handle : Handle
  /-- The manager that a service was opened or created from. -/
  within : Option Handle := none
  deriving DecidableEq, Repr

def Item.closing (x : Item) : Call :=
  match x.kind with
  | .key => .closeKey x.handle
  | _ => .closeServiceHandle x.handle

namespace Call

/-- What is obtained with a handle that a call gave. -/
def item? (h : Handle) : Call → Option Item
  | openManager .. => some ⟨.manager, h, none⟩
  | openService m .. | createService m .. => some ⟨.service, h, some m⟩
  | createKey .. | openKey .. => some ⟨.key, h, none⟩
  | _ => none

/-- The handle that a call is made with, and what it may be a handle of. -/
def takes? : Call → Option (Handle × List Kind)
  | openService m .. | createService m .. => some (m, [.manager])
  | deleteService h | startService h | controlService h _ | queryStatus h | setDescription h _ |
    setFailureActions h _ => some (h, [.service])
  | setValue h .. | queryValue h .. => some (h, [.key])
  | closeServiceHandle h => some (h, [.manager, .service])
  | closeKey h => some (h, [.key])
  | _ => none

/-- A call is made with a handle that is held. -/
def Fits (held : List Item) (c : Call) : Prop :=
  ∀ h kinds, c.takes? = some (h, kinds) → ∃ x ∈ held, x.handle = h ∧ x.kind ∈ kinds

end Call

def Event.item? : Event → Option Item
  | exchange e => e.handle.bind fun h => e.call.item? h
  | ended _ => none

def items (log : List Event) : List Item := log.filterMap Event.item?

def closings (log : List Event) : List Call := (calls log).filter fun c => c.closes?.isSome

/-- **What is held after an event**, what was obtained last first. -/
inductive Handed : List Item → Event → List Item → Prop
  | obtained {held : List Item} {ev : Event} {x : Item} (obtains : ev.item? = some x)
      (fits : ∀ c, ev.call? = some c → c.Fits held) : Handed held ev (x :: held)
  | closed {held : List Item} {ev : Event} {x : Item} (closes : ev.call? = some x.closing) : Handed (x :: held) ev held
  | used {held : List Item} {ev : Event} (obtains : ev.item? = none)
      (fits : ∀ c, ev.call? = some c → c.Fits held ∧ c.closes? = none) : Handed held ev held

theorem closes_closing (x : Item) : x.closing.closes? = some x.handle := by
  obtain ⟨kind, _, _⟩ := x
  cases kind <;> rfl

theorem takes_closing (x : Item) : ∃ kinds, x.closing.takes? = some (x.handle, kinds) ∧ x.kind ∈ kinds := by
  obtain ⟨kind, _, _⟩ := x
  cases kind
  · exact ⟨_, rfl, by simp⟩
  · exact ⟨_, rfl, by simp⟩
  · exact ⟨_, rfl, by simp⟩

/-- What is obtained has the handle that was given out. -/
theorem handle_of_item {ev : Event} {x : Item} (h : ev.item? = some x) : ev.handle? = some x.handle := by
  cases ev with
  | ended pid => cases h
  | exchange e =>
    obtain ⟨handle, hhandle, hitem⟩ := Option.bind_eq_some_iff.1 h
    refine hhandle.trans ?_
    revert hitem
    cases e.call with
    | openManager | openService | createService | createKey | openKey =>
      intro hitem
      obtain rfl := Option.some.inj hitem
      rfl
    | _ => exact nofun

/-- No call both obtains something and closes something. -/
theorem closes_of_item {ev : Event} {x : Item} {c : Call} (h : ev.item? = some x) (hc : ev.call? = some c) :
    c.closes? = none := by
  cases ev with
  | ended pid => cases h
  | exchange e =>
    obtain rfl : e.call = c := Option.some.inj hc
    obtain ⟨handle, -, hitem⟩ := Option.bind_eq_some_iff.1 h
    revert hitem
    cases e.call with
    | closeServiceHandle | closeKey => exact nofun
    | _ => exact fun _ => rfl

/-- A service is opened or created from its manager. -/
theorem takes_within {ev : Event} {x : Item} {m : Handle} (h : ev.item? = some x) (within : x.within = some m) :
    ∃ c, ev.call? = some c ∧ c.takes? = some (m, [.manager]) := by
  cases ev with
  | ended pid => cases h
  | exchange e =>
    obtain ⟨handle, -, hitem⟩ := Option.bind_eq_some_iff.1 h
    refine ⟨e.call, rfl, ?_⟩
    revert hitem
    cases e.call with
    | openService | createService =>
      intro hitem
      obtain rfl := Option.some.inj hitem
      obtain rfl := Option.some.inj within
      rfl
    | openManager | createKey | openKey =>
      intro hitem
      obtain rfl := Option.some.inj hitem
      cases within
    | _ => exact nofun

/-! ## The pile -/

section Pile

variable {held held' : List Item} {log : List Event} {x : Item} {ev : Event}

theorem Handed.fits (h : Handed held ev held') {c : Call} (called : ev.call? = some c) : c.Fits held := by
  cases h with
  | obtained _ fits => exact fits c called
  | used _ fits => exact (fits c called).1
  | @closed _ _ x closes =>
    obtain rfl := Option.some.inj (called.symm.trans closes)
    obtain ⟨kinds, htakes, hkind⟩ := takes_closing x
    intro h kinds' htakes'
    obtain ⟨rfl, rfl⟩ := Prod.mk.inj (Option.some.inj (htakes.symm.trans htakes'))
    exact ⟨x, List.mem_cons_self, rfl, hkind⟩

theorem items_append (log log' : List Event) : items (log ++ log') = items log ++ items log' :=
  List.filterMap_append

theorem calls_append (log log' : List Event) : calls (log ++ log') = calls log ++ calls log' :=
  List.filterMap_append

theorem closings_append (log log' : List Event) : closings (log ++ log') = closings log ++ closings log' := by
  unfold closings
  rw [calls_append, List.filter_append]

theorem items_single {x : Item} (h : ev.item? = some x) : items [ev] = [x] := List.filterMap_cons_some h

theorem items_idle (h : ev.item? = none) : items [ev] = [] := List.filterMap_cons_none h

theorem calls_single {c : Call} (h : ev.call? = some c) : calls [ev] = [c] := List.filterMap_cons_some h

theorem closings_single {c : Call} (h : ev.call? = some c) : closings [ev] = [c].filter fun c => c.closes?.isSome := by
  unfold closings
  rw [calls_single h]

/-- An event all of whose calls close nothing. -/
theorem closings_idle (h : ∀ c, ev.call? = some c → c.closes? = none) : closings [ev] = [] := by
  cases hc : ev.call? with
  | none =>
    have hcalls : calls [ev] = [] := List.filterMap_cons_none hc
    unfold closings
    rw [hcalls, List.filter_nil]
  | some c =>
    rw [closings_single hc]
    exact List.filter_cons_of_neg (by simp [h c hc])

theorem items_closing {c : Call} {handle : Handle} (called : ev.call? = some c) (closes : c.closes? = some handle) :
    items [ev] = [] := by
  refine items_idle ?_
  cases hitem : ev.item? with
  | none => rfl
  | some y =>
    rw [closes_of_item hitem called] at closes
    cases closes

theorem handed_perm (h : Handed held ev held') :
    (items [ev]).map Item.closing ++ held.map Item.closing ~ closings [ev] ++ held'.map Item.closing := by
  cases h with
  | obtained obtains _ =>
    rw [items_single obtains, closings_idle fun c => closes_of_item obtains]
    exact .refl _
  | @closed _ _ x closes =>
    rw [items_closing closes (closes_closing x), closings_single closes,
      List.filter_cons_of_pos (by rw [closes_closing]; rfl)]
    exact .refl _
  | used obtains fits =>
    rw [items_idle obtains, closings_idle fun c called => (fits c called).2]
    exact .refl _

/-- **What was obtained is what was closed and what is still held.** -/
theorem trail_perm (h : Trail Handed held log held') :
    (items log).map Item.closing ++ held.map Item.closing ~ closings log ++ held'.map Item.closing := by
  induction h with
  | nil held => exact .refl _
  | @cons held mid held' ev log first _ ih =>
    have hitems : items (ev :: log) = items [ev] ++ items log := items_append [ev] log
    have hclosings : closings (ev :: log) = closings [ev] ++ closings log := closings_append [ev] log
    rw [hitems, hclosings, List.map_append, List.append_assoc, List.append_assoc]
    calc (items [ev]).map Item.closing ++ ((items log).map Item.closing ++ held.map Item.closing)
      _ ~ (items log).map Item.closing ++ ((items [ev]).map Item.closing ++ held.map Item.closing) :=
        List.perm_append_comm_assoc _ _ _
      _ ~ (items log).map Item.closing ++ (closings [ev] ++ mid.map Item.closing) :=
        (handed_perm first).append_left _
      _ ~ closings [ev] ++ ((items log).map Item.closing ++ mid.map Item.closing) :=
        List.perm_append_comm_assoc _ _ _
      _ ~ closings [ev] ++ (closings log ++ held'.map Item.closing) := ih.append_left _

theorem trail_sublist (h : Trail Handed held log held') : held'.Sublist ((items log).reverse ++ held) := by
  induction h with
  | nil held => exact .refl _
  | @cons held mid held' ev log first _ ih =>
    have hitems : items (ev :: log) = items [ev] ++ items log := items_append [ev] log
    rw [hitems, List.reverse_append, List.append_assoc]
    refine ih.trans (List.Sublist.append_left ?_ _)
    cases first with
    | obtained obtains _ =>
      rw [items_single obtains]
      exact .refl _
    | @closed _ _ x closes =>
      rw [items_closing closes (closes_closing x)]
      exact List.sublist_cons_self _ _
    | used obtains _ =>
      rw [items_idle obtains]
      exact .refl _

/-- Each service lies above the manager that it was opened from. -/
def Nested : List Item → Prop
  | [] => True
  | x :: held => (∀ m, x.within = some m → ∃ y ∈ held, y.handle = m) ∧ Nested held

theorem trail_nested (h : Trail Handed held log held') (nested : Nested held) : Nested held' := by
  induction h with
  | nil held => exact nested
  | cons first _ ih =>
    refine ih ?_
    cases first with
    | obtained obtains fits =>
      refine ⟨fun m within => ?_, nested⟩
      obtain ⟨c, called, takes⟩ := takes_within obtains within
      obtain ⟨y, hy, hhandle, -⟩ := fits c called m _ takes
      exact ⟨y, hy, hhandle⟩
    | closed _ => exact nested.2
    | used _ _ => exact nested

/-- What lies in a pile in which no handle is twice was not opened from the one on top. -/
theorem not_within_top {top : Item} (nested : Nested (top :: held)) (distinct : ((top :: held).map Item.handle).Nodup)
    (hx : x ∈ top :: held) : x.within ≠ some top.handle := by
  intro within
  have habsent : top.handle ∉ held.map Item.handle := (List.nodup_cons.1 distinct).1
  have habove : ∀ pile : List Item, Nested pile → x ∈ pile → ∃ y ∈ pile.tail, y.handle = top.handle := by
    intro pile
    induction pile with
    | nil => intro _ h; cases h
    | cons z pile ih =>
      intro nested h
      cases h with
      | head => exact nested.1 _ within
      | tail _ h =>
        obtain ⟨y, hy, hhandle⟩ := ih nested.2 h
        exact ⟨y, List.mem_of_mem_tail hy, hhandle⟩
  obtain ⟨y, hy, hhandle⟩ := habove _ nested hx
  exact habsent (hhandle ▸ List.mem_map_of_mem hy)

/-- Only what may close something takes it from the pile. -/
theorem top_of_closes (h : Handed held ev held') {c : Call} {handle : Handle} (called : ev.call? = some c)
    (closes : c.closes? = some handle) : ∃ top, held = top :: held' ∧ top.handle = handle := by
  cases h with
  | obtained obtains _ =>
    rw [closes_of_item obtains called] at closes
    cases closes
  | used _ fits =>
    rw [(fits c called).2] at closes
    cases closes
  | @closed _ _ top hclosing =>
    obtain rfl := Option.some.inj (called.symm.trans hclosing)
    exact ⟨top, rfl, Option.some.inj ((closes_closing top).symm.trans closes)⟩

theorem nodup_handles (distinct : (log.filterMap Event.handle?).Nodup) : ((items log).map Item.handle).Nodup := by
  refine distinct.sublist ?_
  clear distinct
  induction log with
  | nil => exact .refl _
  | cons ev log ih =>
    have hitems : items (ev :: log) = items [ev] ++ items log := items_append [ev] log
    cases hitem : ev.item? with
    | none =>
      rw [hitems, items_idle hitem]
      refine ih.trans ?_
      rw [List.filterMap_cons]
      split
      · exact .refl _
      · exact List.sublist_cons_self _ _
    | some x =>
      rw [hitems, items_single hitem, List.filterMap_cons_some (handle_of_item hitem)]
      exact ih.cons_cons _

theorem nodup_closing {pile : List Item} (distinct : (pile.map Item.handle).Nodup) : (pile.map Item.closing).Nodup := by
  have hcloses : (pile.map Item.closing).map Call.closes? = (pile.map Item.handle).map some := by
    rw [List.map_map, List.map_map]
    exact List.map_congr_left fun x _ => closes_closing x
  refine List.Nodup.of_map Call.closes? ?_
  rw [hcloses]
  exact distinct.map fun _ _ => Option.some.inj

end Pile

/-! ## What the calls alone tell -/

/-- **Handles are given back.**  What is used or closed was obtained before and is not closed yet; what was obtained is
closed once, by the function for its kind, and a service before the manager that it was opened or created from. -/
structure Custody (log : List Event) : Prop where
  known : ∀ past ev rest c h kinds, log = past ++ ev :: rest → ev.call? = some c → c.takes? = some (h, kinds) →
    ∃ x ∈ items past, x.handle = h ∧ x.kind ∈ kinds ∧ x.closing ∉ calls past
  once : ∀ x ∈ items log, (calls log).count x.closing = 1
  inside_first : ∀ past ev rest m, log = past ++ ev :: rest → ev.call? = some (.closeServiceHandle m) →
    ∀ x ∈ items log, x.within = some m → x.closing ∈ calls past

section Told

variable {held : List Item} {log : List Event} {x : Item}

/-- What is held was obtained and is not closed. -/
theorem open_of_held (h : Trail Handed [] log held) (distinct : ((items log).map Item.handle).Nodup)
    (hx : x ∈ held) : x ∈ items log ∧ x.closing ∉ calls log := by
  have hobtained : x ∈ items log := by
    have hmem := (trail_sublist h).subset hx
    rwa [List.append_nil, List.mem_reverse] at hmem
  have hperm := trail_perm h
  rw [List.map_nil, List.append_nil] at hperm
  have hapart := (List.nodup_append.1 (hperm.nodup_iff.1 (nodup_closing distinct))).2.2
  refine ⟨hobtained, fun closed => ?_⟩
  have hclosing : x.closing ∈ closings log := List.mem_filter.2 ⟨closed, by rw [closes_closing]; rfl⟩
  exact hapart _ hclosing _ (List.mem_map_of_mem hx) rfl

/-- What was obtained and is not closed is held. -/
theorem held_of_open (h : Trail Handed [] log held) (distinct : ((items log).map Item.handle).Nodup)
    (obtained : x ∈ items log) (hopen : x.closing ∉ calls log) : x ∈ held := by
  have hperm := trail_perm h
  rw [List.map_nil, List.append_nil] at hperm
  have hmem : x.closing ∈ closings log ++ held.map Item.closing := hperm.subset (List.mem_map_of_mem obtained)
  cases List.mem_append.1 hmem with
  | inl closed => exact absurd (List.mem_filter.1 closed).1 hopen
  | inr hheld =>
    obtain ⟨y, hy, hclosing⟩ := List.mem_map.1 hheld
    obtain rfl : y = x :=
      List.inj_on_of_nodup_map (nodup_closing distinct) (open_of_held h distinct hy).1 obtained hclosing
    exact hy

/-- **A pile that is empty in the end has all handles given back.** -/
theorem custody_of_trail (h : Trail Handed [] log []) (distinct : (log.filterMap Event.handle?).Nodup) :
    Custody log := by
  have hnodup : ∀ past rest, log = past ++ rest → ((items past).map Item.handle).Nodup := by
    intro past rest hlog
    refine nodup_handles (distinct.sublist ?_)
    rw [hlog, List.filterMap_append]
    exact List.sublist_append_left _ _
  have known : ∀ past ev rest c h kinds, log = past ++ ev :: rest → ev.call? = some c → c.takes? = some (h, kinds) →
      ∃ x ∈ items past, x.handle = h ∧ x.kind ∈ kinds ∧ x.closing ∉ calls past := by
    intro past ev rest c handle kinds hlog called takes
    rw [hlog] at h
    obtain ⟨pile, pile', before, this, -⟩ := h.split
    obtain ⟨x, hx, hhandle, hkind⟩ := this.fits called handle kinds takes
    obtain ⟨hobtained, hopen⟩ := open_of_held before (hnodup past _ hlog) hx
    exact ⟨x, hobtained, hhandle, hkind, hopen⟩
  refine ⟨known, ?_, ?_⟩
  · intro x hx
    have hperm := trail_perm h
    rw [List.map_nil, List.append_nil, List.append_nil] at hperm
    have hcount : (closings log).count x.closing = 1 := by
      rw [← hperm.count_eq]
      exact List.count_eq_one_of_mem (nodup_closing (hnodup log [] (List.append_nil log).symm))
        (List.mem_map_of_mem hx)
    rwa [closings, List.count_filter (by rw [closes_closing]; rfl)] at hcount
  · intro past ev rest m hlog called x hx within
    have hpast := hnodup past _ hlog
    rw [hlog] at h
    obtain ⟨pile, pile', before, this, -⟩ := h.split
    obtain ⟨top, rfl, rfl⟩ := top_of_closes this called rfl
    rw [hlog, List.append_cons, items_append, items_append, items_closing called rfl, List.append_nil] at hx
    cases List.mem_append.1 hx with
    | inl obtained =>
      -- it would lie above the manager that is closed
      by_contra hopen
      have hdistinct : ((top :: pile').map Item.handle).Nodup := by
        have hsub := trail_sublist before
        rw [List.append_nil] at hsub
        refine List.Nodup.sublist (hsub.map _) ?_
        rw [List.map_reverse]
        exact List.nodup_reverse.2 hpast
      exact not_within_top (trail_nested before trivial) hdistinct (held_of_open before hpast obtained hopen) within
    | inr later =>
      -- it would be opened from a manager that is closed
      obtain ⟨ev', hev', hitem⟩ := List.mem_filterMap.1 later
      obtain ⟨between, after, rfl⟩ := List.append_of_mem hev'
      obtain ⟨c, hcalled, htakes⟩ := takes_within hitem within
      have hsplit : log = (past ++ ev :: between) ++ ev' :: after := by
        rw [hlog, List.append_assoc, List.cons_append]
      obtain ⟨y, -, hhandle, hkind, hopen⟩ := known _ ev' after c _ _ hsplit hcalled htakes
      have hclosing : y.closing = .closeServiceHandle top.handle := by
        unfold Item.closing
        rw [List.mem_singleton.1 hkind, hhandle]
      refine absurd ?_ hopen
      rw [hclosing]
      exact List.mem_filterMap.2 ⟨ev, by simp, called⟩

end Told

end ServiceControl.Windows
