import ServiceControl.Config.Record
import ServiceControl.Proofs.Json.Forms
/-!
# Fields of a configuration

What values a field takes, and what its reader does with a written value: it takes the value into the configuration, if
the field takes what is written, and else it stops, and either way whatever follows (`readField_decides`).  Options are
kept as they are, so there the limits of the parser count; in other values they do not.
-/
namespace ServiceControl.ServiceConfig

open Json

/-! ## Values of fields -/

/-- **The values that a field takes.**  Only three fields may be left unset by a null. -/
def Field.Takes : Field → Value → Prop
  | .name, v | .description, v => ∃ s, v = .string s
  | .displayName, v | .userName, v | .executable, v => v = .null ∨ ∃ s, v = .string s
  | .arguments, v => ∃ ss : List String, v = .array (ss.map .string)
  | .options, v => ∃ ms, v = .object ms
  | .restartOnFailure, v => ∃ b, v = .bool b

theorem optional_takes (s : Option String) : optional s = .null ∨ ∃ t, optional s = .string t := by
  cases s with
  | none => exact .inl rfl
  | some t => exact .inr ⟨t, rfl⟩

/-- **Each field takes the value that a configuration has there.** -/
theorem fieldValue_takes (c : ServiceConfig) (f : Field) : f.Takes (c.fieldValue f) := by
  cases f with
  | name => exact ⟨c.name, rfl⟩
  | displayName => exact optional_takes c.displayName
  | description => exact ⟨c.description, rfl⟩
  | userName => exact optional_takes c.userName
  | arguments => exact ⟨c.arguments, rfl⟩
  | executable => exact optional_takes c.executable
  | options => exact ⟨c.options, rfl⟩
  | restartOnFailure => exact ⟨c.restartOnFailure, rfl⟩

theorem optional_inj {s t : Option String} (h : optional s = optional t) : s = t := by
  cases s <;> cases t <;> first | cases h; rfl | cases h

/-- **The fields and the context make a configuration.** -/
theorem eq_of_fieldValue {c d : ServiceConfig} (fields : ∀ f, c.fieldValue f = d.fieldValue f)
    (context : c.context = d.context) : c = d := by
  have name := Value.string.inj (fields .name)
  have displayName := optional_inj (fields .displayName)
  have description := Value.string.inj (fields .description)
  have userName := optional_inj (fields .userName)
  have arguments := (List.map_inj_right fun _ _ => Value.string.inj).1 (Value.array.inj (fields .arguments))
  have executable := optional_inj (fields .executable)
  have options := Value.object.inj (fields .options)
  have restartOnFailure := Value.bool.inj (fields .restartOnFailure)
  cases c
  cases d
  simp only at name displayName description userName arguments executable options restartOnFailure context
  subst name displayName description userName arguments executable options restartOnFailure context
  rfl

/-- **A field takes just the values that configurations have there.** -/
theorem Field.takes_iff {f : Field} {v : Value} : f.Takes v ↔ ∃ c : ServiceConfig, c.fieldValue f = v := by
  constructor
  · intro takes
    cases f with
    | name =>
      obtain ⟨s, rfl⟩ := takes
      exact ⟨{ name := s }, rfl⟩
    | displayName =>
      obtain rfl | ⟨s, rfl⟩ := takes
      · exact ⟨{ name := "" }, rfl⟩
      · exact ⟨{ name := "", displayName := some s }, rfl⟩
    | description =>
      obtain ⟨s, rfl⟩ := takes
      exact ⟨{ name := "", description := s }, rfl⟩
    | userName =>
      obtain rfl | ⟨s, rfl⟩ := takes
      · exact ⟨{ name := "" }, rfl⟩
      · exact ⟨{ name := "", userName := some s }, rfl⟩
    | arguments =>
      obtain ⟨ss, rfl⟩ := takes
      exact ⟨{ name := "", arguments := ss }, rfl⟩
    | executable =>
      obtain rfl | ⟨s, rfl⟩ := takes
      · exact ⟨{ name := "" }, rfl⟩
      · exact ⟨{ name := "", executable := some s }, rfl⟩
    | options =>
      obtain ⟨ms, rfl⟩ := takes
      exact ⟨{ name := "", options := ms }, rfl⟩
    | restartOnFailure =>
      obtain ⟨b, rfl⟩ := takes
      exact ⟨{ name := "", restartOnFailure := b }, rfl⟩
  · rintro ⟨c, rfl⟩
    exact fieldValue_takes c f

/-- A configuration after one of its fields was set. -/
structure Sets (c : ServiceConfig) (f : Field) (v : Value) (d : ServiceConfig) : Prop where
  value : d.fieldValue f = v
  others : ∀ g, g ≠ f → d.fieldValue g = c.fieldValue g
  context : d.context = c.context

/-- A configuration with a field of another. -/
def withField (c e : ServiceConfig) : Field → ServiceConfig
  | .name => { c with name := e.name }
  | .displayName => { c with displayName := e.displayName }
  | .description => { c with description := e.description }
  | .userName => { c with userName := e.userName }
  | .arguments => { c with arguments := e.arguments }
  | .executable => { c with executable := e.executable }
  | .options => { c with options := e.options }
  | .restartOnFailure => { c with restartOnFailure := e.restartOnFailure }

theorem sets_withField (c e : ServiceConfig) (f : Field) : Sets c f (e.fieldValue f) (c.withField e f) where
  value := by cases f <;> rfl
  others g other := by cases f <;> cases g <;> first | rfl | exact absurd rfl other
  context := by cases f <;> rfl

theorem Field.Takes.sets {f : Field} {v : Value} (takes : f.Takes v) (c : ServiceConfig) : ∃ d, Sets c f v d := by
  obtain ⟨e, rfl⟩ := Field.takes_iff.1 takes
  exact ⟨c.withField e f, sets_withField c e f⟩

/-! ## Readers -/

section Readers

variable {α : Type}

/-- A reader takes these tokens for a thing of this kind, or it stops at them, whatever follows. -/
def Decides (read : List Token → Except Fault (α × List Token)) (ts : List Token) (Good : α → Prop) : Prop :=
  (∃ a, Good a ∧ ∀ rest, read (ts ++ rest) = .ok (a, rest)) ∨
    (∀ a, ¬ Good a) ∧ ∃ fault, ∀ rest, read (ts ++ rest) = .error fault

/-- The strings of a written value denote something: no surrogate stands alone in them. -/
def Legible (v : Form) : Prop := ∀ ps ∈ v.strings, ∃ cs, Denotes ps cs

/-- What is kept of options is not too deep, and its numbers are not too large. -/
def WithinLimits (v : Form) : Prop := 1 + v.depth ≤ deepest ∧ ∀ n ∈ v.numerals, n.number?.isSome

theorem refuse_error (expected : String) (t : Token) : ∃ fault, refuse (α := α) expected t = .error fault := by
  cases h : refuse (α := α) expected t with
  | error fault => exact ⟨fault, rfl⟩
  | ok a => exact absurd h refuse_ne_ok

/-- A reader that goes on with what another one has read decides as that one does. -/
theorem Decides.map {β : Type} {read : List Token → Except Fault (α × List Token)}
    {readMore : List Token → Except Fault (β × List Token)} {ts us : List Token} {Good : α → Prop} {Better : β → Prop}
    (decided : Decides read ts Good) (g : α → β)
    (unfolded : ∀ rest, readMore (us ++ rest) = (read (ts ++ rest) >>= fun p => pure (g p.1, p.2)))
    (good : ∀ a, Good a → Better (g a)) (from_good : ∀ b, Better b → ∃ a, Good a) : Decides readMore us Better := by
  rcases decided with ⟨a, value, reads⟩ | ⟨nothing, fault, stops⟩
  · refine .inl ⟨g a, good a value, fun rest => ?_⟩
    rw [unfolded, reads]
    rfl
  · refine .inr ⟨fun b value => ?_, fault, fun rest => ?_⟩
    · obtain ⟨a, there⟩ := from_good b value
      exact nothing a there
    · rw [unfolded, stops]
      rfl

/-- What is decided where nothing follows. -/
theorem Decides.alone {read : List Token → Except Fault (α × List Token)} {ts : List Token} {Good : α → Prop}
    (decided : Decides read ts Good) :
    (∃ a, Good a ∧ read ts = .ok (a, [])) ∨ (∀ a, ¬ Good a) ∧ ∃ fault, read ts = .error fault := by
  rw [← List.append_nil ts]
  rcases decided with ⟨a, good, reads⟩ | ⟨nothing, fault, stops⟩
  · exact .inl ⟨a, good, reads []⟩
  · exact .inr ⟨nothing, fault, stops []⟩

/-- The token that a written value begins with. -/
def firstToken : Form → Token
  | .null => .null
  | .bool b => .bool b
  | .numeral n => .numeral n
  | .string ps => .string ps
  | .array _ => .opening .square
  | .object _ => .opening .curly

theorem tokens_eq_firstToken (v : Form) : ∃ ts, v.tokens = firstToken v :: ts := by
  cases v with
  | array items => cases items <;> exact ⟨_, rfl⟩
  | object members => rcases members with _ | ⟨⟨k, v⟩, ms⟩ <;> exact ⟨_, rfl⟩
  | _ => exact ⟨_, rfl⟩

theorem Decides.refused_first {read : List Token → Except Fault (α × List Token)} {v : Form} {Good : α → Prop}
    (expected : String) (nothing : ∀ a, ¬ Good a)
    (h : ∀ rest, read (firstToken v :: rest) = refuse expected (firstToken v)) : Decides read v.tokens Good := by
  obtain ⟨ts, hts⟩ := tokens_eq_firstToken v
  obtain ⟨fault, refused⟩ := refuse_error (α := α × List Token) expected (firstToken v)
  rw [hts]
  exact .inr ⟨nothing, fault, fun rest => (h _).trans refused⟩

theorem readString_refuses {v : Form} (h : ∀ ps, v ≠ .string ps) (expected : String) (rest : List Token) :
    readString expected (firstToken v :: rest) = refuse expected (firstToken v) := by
  cases v with
  | string ps => exact absurd rfl (h ps)
  | _ => rfl

theorem value?_string {ps : List Piece} (legible : Legible (.string ps)) :
    ∃ s, (Form.string ps).value? = some (.string s) ∧ keepString ps none = .ok s := by
  obtain ⟨cs, denotes⟩ := legible ps (List.mem_singleton.2 rfl)
  have text := text?_of_denotes denotes
  exact ⟨String.ofList cs, by rw [Form.value?, text]; rfl, keepString_text text⟩

theorem readString_decides {v : Form} (legible : Legible v) (expected : String) :
    Decides (readString expected) v.tokens fun s => v.value? = some (.string s) := by
  by_cases string : ∃ ps, v = .string ps
  · obtain ⟨ps, rfl⟩ := string
    obtain ⟨s, value, kept⟩ := value?_string legible
    refine .inl ⟨s, value, fun rest => ?_⟩
    show readString expected (.string ps :: rest) = _
    rw [readString, kept]
    rfl
  · have other : ∀ ps, v ≠ .string ps := fun ps h => string ⟨ps, h⟩
    exact .refused_first expected (fun s value => string (Form.kind_of_value? value))
      (readString_refuses other expected)

theorem readOptional_decides {v : Form} (legible : Legible v) (expected : String) :
    Decides (readOptional expected) v.tokens fun s => v.value? = some (optional s) := by
  by_cases null : v = .null
  · subst null
    exact .inl ⟨none, rfl, fun rest => rfl⟩
  · have unfolded : ∀ rest, readOptional expected (v.tokens ++ rest)
        = (readString expected (v.tokens ++ rest) >>= fun p => pure (some p.1, p.2)) := by
      intro rest
      obtain ⟨ts, hts⟩ := tokens_eq_firstToken v
      rw [hts, List.cons_append, readOptional]
      rintro ts h
      cases v <;> first | exact null rfl | cases h
    refine (readString_decides legible expected).map some unfolded (fun s value => value) ?_
    rintro (_ | s) value
    · exact absurd (Form.kind_of_value? value) null
    · exact ⟨s, value⟩

theorem readBool_decides (v : Form) : Decides readBool v.tokens fun b => v.value? = some (.bool b) := by
  by_cases bool : ∃ b, v = .bool b
  · obtain ⟨b, rfl⟩ := bool
    exact .inl ⟨b, rfl, fun rest => rfl⟩
  · have other : ∀ b, v ≠ .bool b := fun b h => bool ⟨b, h⟩
    refine .refused_first "a boolean" (fun b value => other b (Form.kind_of_value? value)) fun rest => ?_
    cases v with
    | bool b => exact absurd rfl (other b)
    | _ => rfl

theorem itemValues?_strings {v : Form} {vs : List Form} {ss : List String} :
    itemValues? (v :: vs) = some (ss.map .string) ↔
      ∃ s tail, v.value? = some (.string s) ∧ itemValues? vs = some (tail.map .string) ∧ s :: tail = ss := by
  rw [itemValues?_cons]
  constructor
  · rintro ⟨value, values, head, tail, h⟩
    cases ss with
    | nil => cases h
    | cons s ss =>
      obtain ⟨rfl, rfl⟩ := List.cons.inj h
      exact ⟨s, ss, head, tail, rfl⟩
  · rintro ⟨s, tail, head, values, rfl⟩
    exact ⟨.string s, _, head, values, rfl⟩

theorem readMoreStrings_decides : ∀ {items : List Form}, (∀ ps ∈ itemsStrings items, ∃ cs, Denotes ps cs) →
    Decides readMoreStrings (itemTokens items) fun ss => itemValues? items = some (ss.map .string)
  | [], _ => .inl ⟨[], rfl, fun rest => rfl⟩
  | v :: vs, legible => by
    rw [itemsStrings, List.forall_mem_append] at legible
    by_cases string : ∃ ps, v = .string ps
    · obtain ⟨ps, rfl⟩ := string
      obtain ⟨s, value, kept⟩ := value?_string legible.1
      have unfolded : ∀ rest, readMoreStrings (itemTokens (.string ps :: vs) ++ rest)
          = (readMoreStrings (itemTokens vs ++ rest) >>= fun p => pure (s :: p.1, p.2)) := by
        intro rest
        show readMoreStrings (.comma :: .string ps :: (itemTokens vs ++ rest)) = _
        rw [readMoreStrings, kept]
        rfl
      refine (readMoreStrings_decides legible.2).map (s :: ·) unfolded (fun ss values => ?_) fun ss values => ?_
      · exact itemValues?_strings.2 ⟨s, ss, value, values, rfl⟩
      · obtain ⟨t, tail, -, others, rfl⟩ := itemValues?_strings.1 values
        exact ⟨tail, others⟩
    · have other : ∀ ps, v ≠ .string ps := fun ps h => string ⟨ps, h⟩
      obtain ⟨ts, hts⟩ := tokens_eq_firstToken v
      obtain ⟨fault, refused⟩ := refuse_error (α := List String × List Token) "a string" (firstToken v)
      refine .inr ⟨fun ss values => ?_, fault, fun rest => ?_⟩
      · obtain ⟨s, ss, head, -, rfl⟩ := itemValues?_strings.1 values
        exact string (Form.kind_of_value? head)
      · show readMoreStrings (.comma :: (v.tokens ++ itemTokens vs ++ rest)) = _
        rw [hts, ← refused]
        cases v with
        | string ps => exact absurd rfl (other ps)
        | _ => rfl

theorem readStrings_decides {v : Form} (legible : Legible v) :
    Decides readStrings v.tokens fun ss => v.value? = some (.array (ss.map .string)) := by
  by_cases array : ∃ items, v = .array items
  · obtain ⟨items, rfl⟩ := array
    have goods : ∀ ss : List String, (Form.array items).value? = some (.array (ss.map .string)) ↔
        itemValues? items = some (ss.map .string) := by
      intro ss
      rw [Form.value?, Option.map_eq_some_iff]
      exact ⟨fun ⟨vs, values, h⟩ => Value.array.inj h ▸ values, fun values => ⟨_, values, rfl⟩⟩
    have decided : Decides readMoreStrings (itemTokens items) fun ss => itemValues? items = some (ss.map .string) :=
      readMoreStrings_decides legible
    match items with
    | [] => exact .inl ⟨[], rfl, fun rest => rfl⟩
    | first :: items =>
      -- an array is read as its items after a comma would be, but for how its first item is refused
      by_cases string : ∃ ps, first = .string ps
      · obtain ⟨ps, rfl⟩ := string
        have same : ∀ rest, readStrings ((Form.array (.string ps :: items)).tokens ++ rest)
            = readMoreStrings (itemTokens (.string ps :: items) ++ rest) := by
          intro rest
          show readStrings (.opening .square :: .string ps :: (itemTokens items ++ rest))
            = readMoreStrings (.comma :: .string ps :: (itemTokens items ++ rest))
          rw [readStrings, readMoreStrings, readString, bind_assoc]
          · rfl
          · exact nofun
        rcases decided with ⟨ss, values, reads⟩ | ⟨nothing, fault, stops⟩
        · exact .inl ⟨ss, (goods ss).2 values, fun rest => (same rest).trans (reads rest)⟩
        · exact .inr ⟨fun ss value => nothing ss ((goods ss).1 value), fault, fun rest => (same rest).trans (stops rest)⟩
      · have other : ∀ ps, first ≠ .string ps := fun ps h => string ⟨ps, h⟩
        obtain ⟨ts, hts⟩ := tokens_eq_firstToken first
        obtain ⟨fault, refused⟩ := refuse_error (α := String × List Token) "a string" (firstToken first)
        refine .inr ⟨fun ss value => ?_, fault, fun rest => ?_⟩
        · obtain ⟨s, ss, head, -, rfl⟩ := itemValues?_strings.1 ((goods ss).1 value)
          exact string (Form.kind_of_value? head)
        · show readStrings (.opening .square :: (first.tokens ++ itemTokens items ++ rest)) = _
          rw [hts, List.cons_append, List.cons_append, readStrings, readString_refuses other, refused]
          · rfl
          · rintro ts h
            cases first <;> cases h
  · have other : ∀ items, v ≠ .array items := fun items h => array ⟨items, h⟩
    refine .refused_first "a sequence" (fun ss value => array (Form.kind_of_value? value)) fun rest => ?_
    cases v with
    | array items => exact absurd rfl (other items)
    | _ => rfl

theorem readOptions_decides {v : Form} (legible : Legible v) (limits : WithinLimits v) :
    Decides readOptions v.tokens fun ms => v.value? = some (.object ms) := by
  by_cases object : ∃ ms, v = .object ms
  · obtain ⟨ms, rfl⟩ := object
    obtain ⟨w, value⟩ := Option.isSome_iff_exists.1 (Form.value?_isSome legible limits.2)
    obtain ⟨values, -, rfl⟩ := Option.map_eq_some_iff.1 value
    obtain ⟨ts, hts⟩ := tokens_eq_firstToken (.object ms)
    refine .inl ⟨values, value, fun rest => ?_⟩
    have reads := Form.readValue_tokens value limits.1 rest
    rw [hts, List.cons_append, firstToken] at reads ⊢
    rw [readOptions, reads]
    rfl
  · have other : ∀ ms, v ≠ .object ms := fun ms h => object ⟨ms, h⟩
    refine .refused_first "a map" (fun values value => object (Form.kind_of_value? value)) fun rest => ?_
    cases v with
    | object ms => exact absurd rfl (other ms)
    | _ => rfl

/-- A reader of values, and what it writes into a configuration, make the reader of a field. -/
theorem Decides.field {read : List Token → Except Fault (α × List Token)} {embed : α → Value} {c : ServiceConfig}
    {set : α → ServiceConfig} {f : Field} {v : Form} (decided : Decides read v.tokens fun a => v.value? = some (embed a))
    (sets : ∀ a, Sets c f (embed a) (set a)) (takes : ∀ w, f.Takes w → ∃ a, embed a = w)
    (unfolded : ∀ ts, readField c f ts = (read ts >>= fun p => pure (set p.1, p.2))) :
    Decides (readField c f) v.tokens fun d => ∃ w, v.value? = some w ∧ Sets c f w d := by
  refine decided.map set (fun rest => unfolded _) (fun a value => ⟨embed a, value, sets a⟩) ?_
  -- what was set is in a configuration, and so it is a value that the field takes
  rintro d ⟨w, value, set⟩
  obtain ⟨a, rfl⟩ := takes w (set.value ▸ fieldValue_takes d f)
  exact ⟨a, value⟩

theorem optional_of_takes {v : Value} (takes : v = .null ∨ ∃ s, v = .string s) : ∃ s, optional s = v := by
  obtain rfl | ⟨s, rfl⟩ := takes
  · exact ⟨none, rfl⟩
  · exact ⟨some s, rfl⟩

/-- **A field is read from a written value** if the field takes what is written. -/
theorem readField_decides {f : Field} {v : Form} (legible : Legible v) (limits : f = .options → WithinLimits v)
    (c : ServiceConfig) : Decides (readField c f) v.tokens fun d => ∃ w, v.value? = some w ∧ Sets c f w d := by
  cases f with
  | name =>
    exact (readString_decides legible _).field (fun s => sets_withField c { name := s } .name)
      (fun _ ⟨s, h⟩ => ⟨s, h.symm⟩) fun _ => rfl
  | displayName =>
    exact (readOptional_decides legible _).field (fun s => sets_withField c { name := "", displayName := s } .displayName)
      (fun _ => optional_of_takes) fun _ => rfl
  | description =>
    exact (readString_decides legible _).field (fun s => sets_withField c { name := "", description := s } .description)
      (fun _ ⟨s, h⟩ => ⟨s, h.symm⟩) fun _ => rfl
  | userName =>
    exact (readOptional_decides legible _).field (fun s => sets_withField c { name := "", userName := s } .userName)
      (fun _ => optional_of_takes) fun _ => rfl
  | arguments =>
    exact (readStrings_decides legible).field (fun ss => sets_withField c { name := "", arguments := ss } .arguments)
      (fun _ ⟨ss, h⟩ => ⟨ss, h.symm⟩) fun _ => rfl
  | executable =>
    exact (readOptional_decides legible _).field (fun s => sets_withField c { name := "", executable := s } .executable)
      (fun _ => optional_of_takes) fun _ => rfl
  | options =>
    exact (readOptions_decides legible (limits rfl)).field
      (fun ms => sets_withField c { name := "", options := ms } .options) (fun _ ⟨ms, h⟩ => ⟨ms, h.symm⟩) fun _ => rfl
  | restartOnFailure =>
    exact (readBool_decides v).field
      (fun b => sets_withField c { name := "", restartOnFailure := b } .restartOnFailure)
      (fun _ ⟨b, h⟩ => ⟨b, h.symm⟩) fun _ => rfl

end Readers

end ServiceControl.ServiceConfig
