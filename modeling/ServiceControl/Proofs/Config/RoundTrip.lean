import ServiceControl.Proofs.Config.Records
import ServiceControl.Proofs.Json.Written
/-!
# Configurations written and read

A configuration is written as an object of its eight fields, each once and with a value that it takes, so what is written
is a record that gives the configuration back.  Main statement: what is saved loads as it was, but for the context, and
a blank name is all that can be wrong with it (`load_saved`).
-/
namespace ServiceControl.ServiceConfig

open Json

theorem optional_plain (s : Option String) : (optional s).Plain := by cases s <;> trivial

/-- **Every field is written without loss** if the options are. -/
theorem fieldValue_plain {c : ServiceConfig} (plain : (Value.object c.options).Plain) (f : Field) :
    (c.fieldValue f).Plain := by
  cases f with
  | displayName => exact optional_plain c.displayName
  | userName => exact optional_plain c.userName
  | executable => exact optional_plain c.executable
  | options => exact plain
  | arguments =>
    refine Value.itemsPlain_iff.2 fun v hv => ?_
    obtain ⟨s, -, rfl⟩ := List.mem_map.1 hv
    trivial
  | _ => trivial

/-- Members that denote fields one by one are the fields. -/
theorem MembersDenote.fields {c : ServiceConfig} : ∀ {gs : List Field} {fs : List (List Piece × Form)},
    MembersDenote fs (gs.map fun f => (f.key, c.fieldValue f)) → (fieldsOf fs).map (·.1) = gs ∧
      ∀ p ∈ fieldsOf fs, p.2.value? = some (c.fieldValue p.1) ∧ p.2.depth = (c.fieldValue p.1).depth
  | [], _, .nil => ⟨rfl, nofun⟩
  | g :: gs, (k, v) :: fs, .cons head tail => by
    obtain ⟨key, value, depth⟩ := head
    obtain ⟨keys, others⟩ := MembersDenote.fields tail
    rw [fieldsOf_field key (Field.ofKey?_key g)]
    exact ⟨congrArg (g :: ·) keys, List.forall_mem_cons.2 ⟨⟨value, depth⟩, others⟩⟩

/-- **The text of a configuration is read as the configuration**, but for the context. -/
theorem parse_toJson {c : ServiceConfig} (plain : (Value.object c.options).Plain)
    (shallow : 1 + (Value.object c.options).depth ≤ deepest) :
    parse c.toJson.text = .ok { c with context := .never } := by
  have members : Value.MembersPlain (Field.all.map fun f => (f.key, c.fieldValue f)) := by
    refine Value.membersPlain_iff.2 fun m hm => ?_
    obtain ⟨f, -, rfl⟩ := List.mem_map.1 hm
    exact fieldValue_plain plain f
  obtain ⟨ms, spelled, denote⟩ := Value.objectWritten members
  obtain ⟨keys, values⟩ := MembersDenote.fields denote
  have legible := fun p hp => Form.of_value? (values p hp).1
  have readable : Readable (fieldsOf ms) := by
    intro p hp
    refine ⟨(legible p hp).1, fun options => ⟨?_, (legible p hp).2⟩⟩
    rw [(values p hp).2, options]
    exact shallow
  have holds : Holds c.toJson.text ms := by
    refine ⟨?_, denote.keys, readable⟩
    rw [Value.text, String.toList_ofList]
    exact spelled
  have complete : Complete (fieldsOf ms) := by
    refine ⟨?_, fun p hp => ⟨_, (values p hp).1, fieldValue_takes c p.1⟩, ?_⟩
    · rw [keys]
      decide
    · rw [keys]
      decide
  have gives : Gives (fieldsOf ms) { c with context := .never } := by
    refine ⟨fun p hp => ?_, fun f absent => ?_, rfl⟩
    · rw [(values p hp).1]
      cases p.1 <;> rfl
    · -- all eight fields are written, so none is left to its default
      rw [keys] at absent
      exact absurd (by cases f <;> decide) absent
  rw [parse_object holds]
  exact (drafted_eq_ok_iff readable).2 ⟨complete, gives⟩

/-! ## Orders of the options -/

theorem plain_perm {ms ms' : NameMap Value} (p : ms'.Perm ms) (plain : (Value.object ms).Plain) :
    (Value.object ms').Plain := by
  refine ⟨(p.map _).nodup_iff.2 plain.1, Value.membersPlain_iff.2 fun m hm => ?_⟩
  exact Value.membersPlain_iff.1 plain.2 m (p.mem_iff.1 hm)

theorem depth_perm {ms ms' : NameMap Value} (p : ms'.Perm ms) : (Value.object ms').depth = (Value.object ms).depth := by
  have within : ∀ {xs ys : NameMap Value}, xs.Perm ys → Value.membersDepth xs ≤ Value.membersDepth ys := fun p =>
    Value.membersDepth_le_iff.2 fun m hm => Value.membersDepth_le_iff.1 (Nat.le_refl _) m (p.mem_iff.1 hm)
  rw [Value.depth, Value.depth, Nat.le_antisymm (within p) (within p.symm)]

/-- **What is saved loads as it was.**  Whatever order the options are written in and wherever blanks stand in the text, a
configuration is loaded with the eight fields that it had, its display name and its password among what they say, and a
context that never ends.  With a blank name it is always refused, and for the name. -/
theorem load_saved {read : FileReader} {path text : String} {c : ServiceConfig} {entries : NameMap Value}
    (order : entries.Perm c.options) (plain : (Value.object c.options).Plain)
    (shallow : 1 + (Value.object c.options).depth ≤ deepest) (content : read path = .ok text)
    (written : tokens text.toList = tokens ({ c with options := entries } : ServiceConfig).toJson.text.toList) :
    (Text.isAllBlank c.name.toList = false → ∃ d, load read path = .ok d ∧
      (∀ f, f ≠ .options → d.fieldValue f = c.fieldValue f) ∧ d.options.Perm c.options ∧
      (∀ key, NameMap.find? key d.options = NameMap.find? key c.options) ∧
      d.display = c.display ∧ d.password? = c.password? ∧ d.context = .never) ∧
    (Text.isAllBlank c.name.toList = true → load read path = .error ⟨path, .emptyName⟩) := by
  have parsed := parse_toJson (c := { c with options := entries }) (plain_perm order plain)
    (by rw [depth_perm order]; exact shallow)
  have found : ∀ key, NameMap.find? key entries = NameMap.find? key c.options := NameMap.find?_perm plain.1 order
  have same : parse text = parse ({ c with options := entries } : ServiceConfig).toJson.text := by
    rw [parse, parse, written]
  rw [load_of_content content, ofText_of_parse (same.trans parsed)]
  constructor
  · intro named
    refine ⟨{ c with options := entries, context := .never }, ?_, fun f other => ?_, order, found, rfl, ?_, rfl⟩
    · rw [named]
      rfl
    · cases f <;> first | rfl | exact absurd rfl other
    · rw [password?, password?, found]
  · intro blank
    rw [blank]
    rfl

/-- A configuration with options in two orders, and the same one with a blank name. -/
theorem load_saved_reordered :
    let number : String × Value := ("\u00e9\n", .array [.number (.integer (-1)), .null])
    let password : String × Value := (passwordKey, .string "\"\\")
    let c : ServiceConfig := { name := "a", userName := some "u", options := [number, password] }
    let saved : ServiceConfig := { c with options := [password, number] }
    (∃ d, load (fun _ => .ok saved.toJson.text) "p" = .ok d ∧ d.password? = some "\"\\") ∧
      load (fun _ => .ok ({ saved with name := " " } : ServiceConfig).toJson.text) "p" = .error ⟨"p", .emptyName⟩ := by
  intro number password c saved
  have order : [password, number].Perm [number, password] := .swap number password []
  have plain : (Value.object [number, password]).Plain :=
    ⟨by decide, ⟨⟨by decide, by decide⟩, trivial, trivial⟩, trivial, trivial⟩
  have shallow : 1 + (Value.object [number, password]).depth ≤ deepest := by decide
  obtain ⟨loads, -⟩ := @load_saved (fun _ => .ok saved.toJson.text) "p" _ c _ order plain shallow rfl rfl
  obtain ⟨d, loaded, -, -, -, -, same, -⟩ := loads (by decide)
  obtain ⟨-, refused⟩ := @load_saved (fun _ => .ok ({ saved with name := " " } : ServiceConfig).toJson.text) "p" _
    { c with name := " " } _ order plain shallow rfl rfl
  exact ⟨⟨d, loaded, same.trans rfl⟩, refused (by decide)⟩

end ServiceControl.ServiceConfig
