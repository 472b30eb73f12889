/-!
# Maps from names

Values under names, in the order in which the names came; a name that is put again keeps its place.  Main statements: the
last value put under a name is the one found (`find?_put`), and one that is erased is not found (`find?_erase`).
-/
namespace ServiceControl

abbrev NameMap (α : Type) := List (String × α)

namespace NameMap

variable {α : Type}

/-- The map with the value of one name set. -/
def put (name : String) (value : α) : NameMap α → NameMap α
  | [] => [(name, value)]
  | m :: ms => if m.1 = name then (name, value) :: ms else m :: put name value ms

/-- The value under a name. -/
def find? (name : String) : NameMap α → Option α
  | [] => none
  | m :: ms => if m.1 = name then some m.2 else find? name ms

/-- The map without a name. -/
def erase (name : String) (ms : NameMap α) : NameMap α := ms.filter fun m => m.1 ≠ name

def has (name : String) (ms : NameMap α) : Bool := (find? name ms).isSome

/-- **The last value put under a name is the one found**, and no other name is touched. -/
theorem find?_put (name other : String) (value : α) :
    ∀ ms : NameMap α, find? other (put name value ms) = if name = other then some value else find? other ms
  | [] => by simp [put, find?]
  | m :: ms => by
    by_cases hk : m.1 = name
    · by_cases ho : name = other
      · simp [put, hk, ho, find?]
      · simp [put, hk, ho, find?]
    · by_cases ho : m.1 = other
      · have other_name : ¬ name = other := fun h => hk (ho.trans h.symm)
        rw [put, if_neg hk, find?, if_pos ho, find?, if_pos ho, if_neg other_name]
      · simp [put, hk, find?, ho, find?_put name other value ms]

theorem put_put (name : String) (value value' : α) :
    ∀ ms : NameMap α, put name value' (put name value ms) = put name value' ms
  | [] => by simp [put]
  | m :: ms => by
    by_cases hk : m.1 = name
    · simp [put, hk]
    · simp [put, hk, put_put name value value' ms]

/-- To put what is there changes nothing. -/
theorem put_of_find? {name : String} {value : α} : ∀ {ms : NameMap α}, find? name ms = some value → put name value ms = ms
  | m :: ms, h => by
    by_cases hk : m.1 = name
    · rw [find?, if_pos hk] at h
      obtain rfl := Option.some.inj h
      rw [put, if_pos hk, ← hk]
    · rw [find?, if_neg hk] at h
      rw [put, if_neg hk, put_of_find? h]

/-- **An erased name is not found**, and no other name is touched. -/
theorem find?_erase (name other : String) :
    ∀ ms : NameMap α, find? other (erase name ms) = if name = other then none else find? other ms
  | [] => by simp [erase, find?]
  | m :: ms => by
    have ih := find?_erase name other ms
    unfold erase at ih ⊢
    by_cases hk : m.1 = name
    · rw [List.filter_cons_of_neg (by simp [hk]), ih]
      by_cases ho : name = other
      · simp [ho]
      · rw [if_neg ho, if_neg ho, find?, if_neg (fun h => ho (hk.symm.trans h))]
    · rw [List.filter_cons_of_pos (by simp [hk])]
      by_cases ho : m.1 = other
      · rw [find?, if_pos ho, find?, if_pos ho, if_neg (fun h => hk (ho.trans h.symm))]
      · rw [find?, if_neg ho, ih, find?, if_neg ho]

/-- A name that is not there need not be erased. -/
theorem erase_of_absent {name : String} : ∀ {ms : NameMap α}, find? name ms = none → erase name ms = ms
  | [], _ => rfl
  | m :: ms, h => by
    unfold find? at h
    split at h
    · cases h
    · rename_i hk
      have ih : erase name ms = ms := erase_of_absent h
      unfold erase at ih ⊢
      rw [List.filter_cons_of_pos (by simp [hk]), ih]

/-- What is put under a name is erased with it. -/
theorem erase_put (name : String) (value : α) : ∀ ms : NameMap α, erase name (put name value ms) = erase name ms
  | [] => by simp [put, erase]
  | m :: ms => by
    have ih := erase_put name value ms
    unfold erase at ih ⊢
    by_cases hk : m.1 = name
    · simp [put, hk]
    · rw [put, if_neg hk, List.filter_cons_of_pos (by simp [hk]), List.filter_cons_of_pos (by simp [hk]), ih]

theorem has_put (name other : String) (value : α) (ms : NameMap α) :
    has other (put name value ms) = (other == name || has other ms) := by
  unfold has
  rw [find?_put]
  by_cases h : name = other
  · rw [if_pos h, h, beq_self_eq_true]
    rfl
  · rw [if_neg h, beq_eq_false_iff_ne.2 (Ne.symm h), Bool.false_or]

theorem has_erase (name other : String) (ms : NameMap α) :
    has other (erase name ms) = (other != name && has other ms) := by
  unfold has
  rw [find?_erase]
  by_cases h : name = other
  · rw [if_pos h, h, bne_self_eq_false]
    rfl
  · rw [if_neg h, bne_iff_ne.2 (Ne.symm h), Bool.true_and]

theorem has_of_mem {name : String} {value : α} : ∀ {ms : NameMap α}, (name, value) ∈ ms → has name ms = true
  | m :: ms, h => by
    unfold has find?
    by_cases hk : m.1 = name
    · rw [if_pos hk, Option.isSome_some]
    · rw [if_neg hk]
      rcases List.mem_cons.1 h with rfl | h
      · exact absurd rfl hk
      · exact has_of_mem h

/-! ## Values told otherwise -/

/-- The map with each value told otherwise. -/
def mapValues {β : Type} (f : α → β) (ms : NameMap α) : NameMap β := ms.map fun m => (m.1, f m.2)

section MapValues

variable {β γ : Type}

theorem find?_mapValues (f : α → β) (name : String) :
    ∀ ms : NameMap α, find? name (mapValues f ms) = (find? name ms).map f
  | [] => rfl
  | m :: ms => by
    have ih := find?_mapValues f name ms
    unfold mapValues at ih ⊢
    rw [List.map_cons, find?, find?, ih]
    split <;> rfl

theorem mapValues_put (f : α → β) (name : String) (value : α) :
    ∀ ms : NameMap α, mapValues f (put name value ms) = put name (f value) (mapValues f ms)
  | [] => rfl
  | m :: ms => by
    have ih := mapValues_put f name value ms
    unfold mapValues at ih ⊢
    rw [List.map_cons, put, put, ← ih]
    split <;> rfl

theorem mapValues_erase (f : α → β) (name : String) (ms : NameMap α) :
    mapValues f (erase name ms) = erase name (mapValues f ms) := by
  unfold mapValues erase
  rw [List.filter_map]
  rfl

theorem mapValues_mapValues (f : α → β) (g : β → γ) (ms : NameMap α) :
    mapValues g (mapValues f ms) = mapValues (g ∘ f) ms := by
  unfold mapValues
  rw [List.map_map]
  rfl

end MapValues

/-! ## Distinct names -/

def keys (ms : NameMap α) : List String := ms.map (·.1)

theorem mem_keys_put {name other : String} {value : α} :
    ∀ {ms : NameMap α}, other ∈ keys (put name value ms) ↔ other = name ∨ other ∈ keys ms
  | [] => by simp [put, keys]
  | m :: ms => by
    have ih : other ∈ keys (put name value ms) ↔ other = name ∨ other ∈ keys ms := mem_keys_put
    unfold keys at ih ⊢
    by_cases hk : m.1 = name
    · rw [put, if_pos hk, List.map_cons, List.map_cons, List.mem_cons, List.mem_cons, hk]
      exact or_self_left.symm
    · rw [put, if_neg hk, List.map_cons, List.map_cons, List.mem_cons, List.mem_cons, ih, or_left_comm]

theorem nodup_keys_put {name : String} {value : α} :
    ∀ {ms : NameMap α}, (keys ms).Nodup → (keys (put name value ms)).Nodup
  | [], _ => by simp [put, keys]
  | m :: ms, h => by
    obtain ⟨hm, hms⟩ := List.nodup_cons.1 h
    by_cases hk : m.1 = name
    · rw [put, if_pos hk]
      exact List.nodup_cons.2 ⟨hk ▸ hm, hms⟩
    · rw [put, if_neg hk]
      exact List.nodup_cons.2 ⟨fun hmem => (mem_keys_put.1 hmem).elim hk hm, nodup_keys_put hms⟩

theorem nodup_keys_erase {name : String} {ms : NameMap α} (h : (keys ms).Nodup) : (keys (erase name ms)).Nodup :=
  h.sublist (List.filter_sublist.map _)

theorem mem_of_find? {name : String} {value : α} : ∀ {ms : NameMap α}, find? name ms = some value → (name, value) ∈ ms
  | m :: ms, h => by
    unfold find? at h
    split at h
    · rename_i hk
      obtain rfl := Option.some.inj h
      exact hk ▸ List.mem_cons_self
    · exact List.mem_cons_of_mem _ (mem_of_find? h)

/-- **Where names are distinct, the value under a name is found.** -/
theorem find?_of_mem {name : String} {value : α} :
    ∀ {ms : NameMap α}, (keys ms).Nodup → (name, value) ∈ ms → find? name ms = some value
  | m :: ms, h, hmem => by
    obtain ⟨hm, hms⟩ := List.nodup_cons.1 h
    rcases List.mem_cons.1 hmem with rfl | hmem
    · rw [find?, if_pos rfl]
    · rw [find?, if_neg fun hk : m.1 = name => hm (List.mem_map.2 ⟨_, hmem, hk.symm⟩), find?_of_mem hms hmem]

/-- The order of the names does not matter for what is found. -/
theorem find?_perm {ms ms' : NameMap α} (h : (keys ms).Nodup) (p : List.Perm ms' ms) (name : String) :
    find? name ms' = find? name ms := by
  have h' : (keys ms').Nodup := (p.map _).nodup_iff.2 h
  cases hf : find? name ms with
  | some value => exact find?_of_mem h' (p.mem_iff.2 (mem_of_find? hf))
  | none =>
    cases hf' : find? name ms' with
    | none => rfl
    | some value => exact (find?_of_mem h (p.mem_iff.1 (mem_of_find? hf'))).symm.trans hf

end NameMap

end ServiceControl
