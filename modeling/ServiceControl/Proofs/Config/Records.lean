import ServiceControl.Config.Load
import ServiceControl.Proofs.Config.Fields
import ServiceControl.Proofs.Json.Spelling
/-!
# Records of a configuration

A text gives a configuration through the fields that stand in it and through nothing else: the parser makes of an object,
and of an array, what it makes of the row of their fields (`parse_object`, `parse_array`), one after another (`takeAll`).
From what one field does to a draft follows what a row of them does, and from that which records load and as what
(`ofText_record`).  Main statement: all spellings of a record load alike (`load_record`).
-/
namespace ServiceControl.ServiceConfig

open Json

/-! ## Rows of fields -/

/-- The fields among the members of an object, in their order, with their values. -/
def fieldsOf (ms : List (List Piece × Form)) : List (Field × Form) :=
  ms.filterMap fun m => ((Piece.text? m.1).bind Field.ofKey?).map (·, m.2)

/-- Strings are legible, and options are within the limits of the parser. -/
def Readable (fs : List (Field × Form)) : Prop :=
  ∀ p ∈ fs, Legible p.2 ∧ (p.1 = .options → WithinLimits p.2)

/-- **The rows of fields that load.**  No field is there twice, each has a value that it takes, and there is a name that is
not blank. -/
structure Loadable (fs : List (Field × Form)) : Prop where
  once : (fs.map (·.1)).Nodup
  typed : ∀ p ∈ fs, ∃ w, p.2.value? = some w ∧ p.1.Takes w
  named : ∃ v s, (.name, v) ∈ fs ∧ v.value? = some (.string s) ∧ Text.isAllBlank s.toList = false

/-- **What a row of fields gives**: each field that is there has its value, and each other its default. -/
structure Gives (fs : List (Field × Form)) (c : ServiceConfig) : Prop where
  given : ∀ p ∈ fs, p.2.value? = some (c.fieldValue p.1)
  absent : ∀ f, f ∉ fs.map (·.1) → c.fieldValue f = fieldValue { name := "" } f
  context : c.context = .never

/-- A row of fields gives one configuration at most. -/
theorem Gives.eq {fs : List (Field × Form)} {c d : ServiceConfig} (hc : Gives fs c) (hd : Gives fs d) : c = d := by
  refine eq_of_fieldValue (fun f => ?_) (hc.context.trans hd.context.symm)
  by_cases h : f ∈ fs.map (·.1)
  · obtain ⟨p, hp, rfl⟩ := List.mem_map.1 h
    exact Option.some.inj ((hc.given p hp).symm.trans (hd.given p hp))
  · rw [hc.absent f h, hd.absent f h]

theorem Loadable.perm {fs fs' : List (Field × Form)} (h : Loadable fs) (p : fs.Perm fs') : Loadable fs' where
  once := (p.map _).nodup_iff.1 h.once
  typed q hq := h.typed q (p.mem_iff.2 hq)
  named := by
    obtain ⟨v, s, hv, named⟩ := h.named
    exact ⟨v, s, p.mem_iff.1 hv, named⟩

theorem Gives.perm {fs fs' : List (Field × Form)} {c : ServiceConfig} (h : Gives fs c) (p : fs.Perm fs') :
    Gives fs' c where
  given q hq := h.given q (p.mem_iff.2 hq)
  absent f hf := h.absent f fun there => hf ((p.map _).mem_iff.1 there)
  context := h.context

/-! ## Drafts -/

/-- A draft with one more field. -/
def Draft.take (d : Draft) (p : Field × Form) : Except Fault Draft :=
  if p.1 ∈ d.seen then .error (.data (.repeatedField p.1.key))
  else do
    let (c, _) ← readField d.config p.1 p.2.tokens
    return ⟨c, p.1 :: d.seen⟩

def Draft.takeAll (d : Draft) (fs : List (Field × Form)) : Except Fault Draft := fs.foldlM Draft.take d

theorem Draft.takeAll_cons (d : Draft) (p : Field × Form) (fs : List (Field × Form)) :
    d.takeAll (p :: fs) = (d.take p >>= fun e => e.takeAll fs) := List.foldlM_cons

theorem readField_tokens {f : Field} {v : Form} (legible : Legible v) (limits : f = .options → WithinLimits v)
    (c : ServiceConfig) (rest : List Token) :
    readField c f (v.tokens ++ rest) = (readField c f v.tokens >>= fun p => pure (p.1, rest)) := by
  rcases readField_decides legible limits c with ⟨d, -, reads⟩ | ⟨-, fault, stops⟩
  · rw [reads, ← List.append_nil v.tokens, reads]
    rfl
  · rw [stops, ← List.append_nil v.tokens, stops]
    rfl

/-- A new field is taken with its value, or stops the draft if that is none of its type. -/
theorem Draft.take_decides {d : Draft} {p : Field × Form} (new : p.1 ∉ d.seen) (legible : Legible p.2)
    (limits : p.1 = .options → WithinLimits p.2) :
    (∃ c, (∃ w, p.2.value? = some w ∧ Sets d.config p.1 w c) ∧ d.take p = .ok ⟨c, p.1 :: d.seen⟩) ∨
      (∀ c, ¬ ∃ w, p.2.value? = some w ∧ Sets d.config p.1 w c) ∧ ∃ fault, d.take p = .error fault := by
  rw [Draft.take, if_neg new]
  rcases (readField_decides legible limits d.config).alone with ⟨c, good, reads⟩ | ⟨nothing, fault, stops⟩
  · refine .inl ⟨c, good, ?_⟩
    rw [reads]
    rfl
  · refine .inr ⟨nothing, fault, ?_⟩
    rw [stops]
    rfl

/-- A draft after a row of fields: they are the ones that it has seen, and it has what they give. -/
structure Draft.Follows (fs : List (Field × Form)) (d : Draft) : Prop where
  seen : ∀ f, f ∈ d.seen ↔ f ∈ fs.map (·.1)
  once : (fs.map (·.1)).Nodup
  gives : Gives fs d.config

theorem Draft.follows_nil : Draft.Follows [] {} where
  seen f := by simp
  once := List.nodup_nil
  gives := ⟨nofun, fun f _ => rfl, rfl⟩

/-- **What one field does to a draft**: the field is new, and the draft has its value from then on. -/
theorem Draft.Follows.take {fs : List (Field × Form)} {d e : Draft} {p : Field × Form} (h : Draft.Follows fs d)
    (legible : Legible p.2) (limits : p.1 = .options → WithinLimits p.2) (taken : d.take p = .ok e) :
    Draft.Follows (fs ++ [p]) e := by
  by_cases seen : p.1 ∈ d.seen
  · rw [Draft.take, if_pos seen] at taken
    cases taken
  · have new : p.1 ∉ fs.map (·.1) := (h.seen p.1).not.1 seen
    rcases Draft.take_decides seen legible limits with ⟨c, ⟨w, value, sets⟩, takes⟩ | ⟨-, fault, stops⟩
    · obtain rfl := Except.ok.inj (takes.symm.trans taken)
      -- no field before is this one, so each keeps what it had
      refine ⟨fun f => ?_, ?_, fun q hq => ?_, fun f hf => ?_, sets.context.trans h.gives.context⟩
      · rw [List.mem_cons, h.seen, List.map_append, List.mem_append, or_comm]
        exact or_congr_right List.mem_singleton.symm
      · rw [List.map_append]
        refine List.nodup_append.2 ⟨h.once, List.pairwise_singleton _ _, fun f hf g hg same => new ?_⟩
        obtain rfl : g = p.1 := List.mem_singleton.1 hg
        exact same ▸ hf
      · rcases List.mem_append.1 hq with hq | hq
        · have other : q.1 ≠ p.1 := fun same => new (same ▸ List.mem_map_of_mem hq)
          rw [sets.others q.1 other]
          exact h.gives.given q hq
        · obtain rfl := List.mem_singleton.1 hq
          rw [sets.value]
          exact value
      · rw [List.map_append, List.mem_append, not_or] at hf
        have other : f ≠ p.1 := fun same => hf.2 (List.mem_singleton.2 same)
        rw [sets.others f other]
        exact h.gives.absent f hf.1
    · cases stops.symm.trans taken

/-- **What a row of fields does to a draft.** -/
theorem Draft.Follows.takeAll : ∀ {fs before : List (Field × Form)} {d e : Draft}, Draft.Follows before d →
    Readable fs → d.takeAll fs = .ok e → Draft.Follows (before ++ fs) e
  | [], before, d, e, h, _, taken => by
    obtain rfl := Except.ok.inj taken
    rw [List.append_nil]
    exact h
  | p :: fs, before, d, e, h, readable, taken => by
    rw [Draft.takeAll_cons] at taken
    obtain ⟨legible, limits⟩ := readable p List.mem_cons_self
    obtain ⟨next, head, tail⟩ := bind_eq_ok.1 taken
    have step := h.take legible limits head
    rw [List.append_cons]
    exact step.takeAll (fun q hq => readable q (List.mem_cons_of_mem p hq)) tail

theorem Draft.take_succeeds {d : Draft} {p : Field × Form} {w : Value} (legible : Legible p.2)
    (limits : p.1 = .options → WithinLimits p.2) (new : p.1 ∉ d.seen) (value : p.2.value? = some w)
    (takes : p.1.Takes w) : ∃ e, d.take p = .ok e ∧ e.seen = p.1 :: d.seen := by
  rcases Draft.take_decides new legible limits with ⟨c, -, taken⟩ | ⟨nothing, -⟩
  · exact ⟨_, taken, rfl⟩
  · obtain ⟨c, sets⟩ := takes.sets d.config
    exact absurd ⟨w, value, sets⟩ (nothing c)

theorem Draft.takeAll_succeeds : ∀ {fs : List (Field × Form)} {d : Draft}, Readable fs → (fs.map (·.1)).Nodup →
    (∀ f ∈ fs.map (·.1), f ∉ d.seen) → (∀ p ∈ fs, ∃ w, p.2.value? = some w ∧ p.1.Takes w) →
    ∃ e, d.takeAll fs = .ok e
  | [], d, _, _, _, _ => ⟨d, rfl⟩
  | p :: fs, d, readable, once, new, typed => by
    obtain ⟨legible, limits⟩ := readable p List.mem_cons_self
    obtain ⟨w, value, takes⟩ := typed p List.mem_cons_self
    obtain ⟨absent, once⟩ : p.1 ∉ fs.map (·.1) ∧ (fs.map (·.1)).Nodup := List.nodup_cons.1 once
    obtain ⟨e, taken, seen⟩ := Draft.take_succeeds legible limits (new p.1 List.mem_cons_self) value takes
    have others : ∀ f ∈ fs.map (·.1), f ∉ e.seen := by
      intro f hf
      rw [seen, List.mem_cons, not_or]
      exact ⟨fun same => absent (same ▸ hf), new f (List.mem_cons_of_mem _ hf)⟩
    obtain ⟨last, rest⟩ := Draft.takeAll_succeeds (fun q hq => readable q (List.mem_cons_of_mem p hq)) once others
      fun q hq => typed q (List.mem_cons_of_mem p hq)
    rw [Draft.takeAll_cons, taken]
    exact ⟨last, rest⟩

/-! ## Objects -/

theorem fieldsOf_unknown {k : List Piece} {key : String} (hkey : Piece.text? k = some key)
    (unknown : Field.ofKey? key = none) (v : Form) (ms : List (List Piece × Form)) :
    fieldsOf ((k, v) :: ms) = fieldsOf ms :=
  List.filterMap_cons_none (by rw [hkey, Option.bind_some, unknown]; rfl)

theorem fieldsOf_field {k : List Piece} {key : String} {f : Field} (hkey : Piece.text? k = some key)
    (field : Field.ofKey? key = some f) (v : Form) (ms : List (List Piece × Form)) :
    fieldsOf ((k, v) :: ms) = (f, v) :: fieldsOf ms :=
  List.filterMap_cons_some (by rw [hkey, Option.bind_some, field]; rfl)

theorem readMembers_end {d : Draft} {first : Bool} {ts rest : List Token} (h : takeKey first ts = .ok (none, rest)) :
    readMembers d first ts = (d.complete >>= fun c => pure (c, rest)) := by
  rw [readMembers]
  split
  · rename_i stop
    rw [h] at stop
    cases stop
  · rename_i last
    rw [h] at last
    cases last
    rfl
  · rename_i next
    rw [h] at next
    cases next

theorem readMembers_member {d : Draft} {first : Bool} {ts afterKey : List Token} {key : String}
    (h : takeKey first ts = .ok (some key, afterKey)) :
    readMembers d first ts = (d.readMember key afterKey >>= fun p => readMembers p.1 false p.2) := by
  rw [readMembers]
  split
  · rename_i stop
    rw [h] at stop
    cases stop
  · rename_i last
    rw [h] at last
    cases last
  · rename_i next
    rw [h] at next
    cases next
    split
    · rename_i stop
      rw [stop]
      rfl
    · rename_i taken
      rw [taken]
      rfl

section Key

variable {k : List Piece} {key : String}

theorem takeKey_first (hkey : Piece.text? k = some key) (ts : List Token) :
    takeKey true (.string k :: ts) = .ok (some key, ts) := by
  show takeKey.keyAt (.string k :: ts) = _
  rw [takeKey.keyAt, keepString_text hkey]
  rfl

theorem takeKey_next (hkey : Piece.text? k = some key) (ts : List Token) :
    takeKey false (.comma :: .string k :: ts) = .ok (some key, ts) := takeKey_first hkey ts

end Key

/-- A member that no field has is passed over, whatever its value is. -/
theorem readMember_unknown {key : String} (unknown : Field.ofKey? key = none) (d : Draft) (v : Form)
    (rest : List Token) : d.readMember key (.colon :: (v.tokens ++ rest)) = .ok (d, rest) := by
  rw [Draft.readMember, unknown]
  show (skipValue (v.tokens ++ rest) >>= fun ts => pure (d, ts)) = _
  rw [v.skipValue_tokens]
  rfl

theorem readMember_field {key : String} {f : Field} {v : Form} (field : Field.ofKey? key = some f) (legible : Legible v)
    (limits : f = .options → WithinLimits v) (d : Draft) (rest : List Token) :
    d.readMember key (.colon :: (v.tokens ++ rest)) = (d.take (f, v) >>= fun e => pure (e, rest)) := by
  rw [Draft.readMember, field, Draft.take]
  by_cases seen : f ∈ d.seen
  · rw [if_pos seen]
    exact if_pos seen
  · rw [if_neg seen]
    refine (if_neg seen).trans ?_
    show (readField d.config f (v.tokens ++ rest) >>= fun p => pure (Draft.mk p.1 (f :: d.seen), p.2)) = _
    rw [readField_tokens legible limits, bind_assoc, bind_assoc]
    rfl

/-- **The members of an object do to a draft what its fields do.** -/
theorem readMembers_tokens : ∀ {ms : List (List Piece × Form)}, (∀ m ∈ ms, ∃ cs, Denotes m.1 cs) →
    Readable (fieldsOf ms) → ∀ (d : Draft) (rest : List Token),
      readMembers d false (memberTokens ms ++ rest)
        = (d.takeAll (fieldsOf ms) >>= fun e => e.complete >>= fun c => pure (c, rest))
  | [], _, _, d, rest => by
    show readMembers d false (.closing .curly :: rest) = _
    rw [readMembers_end rfl]
    rfl
  | (k, v) :: ms, keys, readable, d, rest => by
    obtain ⟨⟨cs, denotes⟩, keys⟩ := List.forall_mem_cons.1 keys
    have hkey := text?_of_denotes denotes
    show readMembers d false (.comma :: .string k :: .colon :: (v.tokens ++ memberTokens ms ++ rest)) = _
    rw [readMembers_member (takeKey_next hkey _), List.append_assoc]
    cases hf : Field.ofKey? (String.ofList cs) with
    | none =>
      rw [fieldsOf_unknown hkey hf] at readable ⊢
      rw [readMember_unknown hf]
      exact readMembers_tokens keys readable d rest
    | some f =>
      rw [fieldsOf_field hkey hf] at readable ⊢
      obtain ⟨here, readable⟩ := List.forall_mem_cons.1 readable
      have later := readMembers_tokens keys readable
      rw [readMember_field hf here.1 here.2, Draft.takeAll_cons]
      simp only [bind_assoc, pure_bind, later]

/-- **A text that is an object with these members.**  Its keys and the values of its fields are legible, and its options are
within the limits; what stands under other keys may be anything. -/
structure Holds (text : String) (ms : List (List Piece × Form)) : Prop where
  spelled : (Form.object ms).Spelled text.toList
  keys : ∀ m ∈ ms, ∃ cs, Denotes m.1 cs
  readable : Readable (fieldsOf ms)

theorem legible_members : ∀ {ms : List (List Piece × Form)}, Legible (.object ms) →
    ∀ m ∈ ms, (∃ cs, Denotes m.1 cs) ∧ Legible m.2
  | [], _ => nofun
  | (k, v) :: ms, legible => by
    obtain ⟨key, others⟩ := List.forall_mem_cons.1 legible
    obtain ⟨inside, others⟩ := List.forall_mem_append.1 others
    exact List.forall_mem_cons.2 ⟨⟨key, inside⟩, legible_members others⟩

theorem mem_of_mem_fieldsOf {ms : List (List Piece × Form)} {p : Field × Form} (h : p ∈ fieldsOf ms) :
    ∃ k, (k, p.2) ∈ ms := by
  obtain ⟨m, hm, named⟩ := List.mem_filterMap.1 h
  obtain ⟨f, -, rfl⟩ := Option.map_eq_some_iff.1 named
  exact ⟨m.1, hm⟩

/-- It is enough that no string of the object has a surrogate that stands alone. -/
theorem holds_of_legible {text : String} {ms : List (List Piece × Form)} (spelled : (Form.object ms).Spelled text.toList)
    (legible : Legible (.object ms)) (limits : ∀ v, (.options, v) ∈ fieldsOf ms → WithinLimits v) : Holds text ms where
  spelled := spelled
  keys m hm := (legible_members legible m hm).1
  readable p hp := by
    obtain ⟨k, hk⟩ := mem_of_mem_fieldsOf hp
    exact ⟨(legible_members legible _ hk).2, fun options => limits p.2 (options ▸ hp)⟩

theorem parse_eq {text : String} {ts : List Token} {drafted : Except Fault Draft} (cut : tokens text.toList = ts)
    (record : readRecord ts = (drafted >>= fun e => e.complete >>= fun c => pure (c, []))) :
    parse text = (drafted >>= Draft.complete) := by
  rw [parse, cut, record]
  cases drafted with
  | error fault => rfl
  | ok e => cases completed : e.complete <;> simp only [bind, Except.bind, pure, Except.pure, completed]

/-- **An object is read as the row of its fields.** -/
theorem parse_object {ms : List (List Piece × Form)} {text : String} (h : Holds text ms) :
    parse text = (Draft.takeAll {} (fieldsOf ms) >>= Draft.complete) := by
  have members := readMembers_tokens h.keys h.readable {} []
  have whole : readRecord (Form.object ms).tokens = readMembers {} false (memberTokens ms ++ []) := by
    match ms, h.keys with
    | [], _ =>
      show readMembers {} true [.closing .curly] = readMembers {} false [.closing .curly]
      rw [readMembers_end rfl, readMembers_end rfl]
    | (k, v) :: ms, keys =>
      obtain ⟨cs, denotes⟩ := keys (k, v) List.mem_cons_self
      have hkey := text?_of_denotes denotes
      rw [List.append_nil]
      show readMembers {} true (.string k :: .colon :: (v.tokens ++ memberTokens ms))
        = readMembers {} false (.comma :: .string k :: .colon :: (v.tokens ++ memberTokens ms))
      rw [readMembers_member (takeKey_first hkey _), readMembers_member (takeKey_next hkey _)]
  exact parse_eq (Form.tokens_of_spelled h.spelled) (whole.trans members)

/-! ## Arrays -/

/-- **The items of an array after the name do to a draft what the fields do whose values they are.** -/
theorem readItems_tokens : ∀ {fields seen : List Field} {vs : List Form}, .name ∈ seen → (∀ f ∈ fields, f ∉ seen) →
    fields.Nodup → vs.length ≤ fields.length → Readable (fields.zip vs) → ∀ (c : ServiceConfig) (rest : List Token),
      readItems c fields (itemTokens vs ++ rest)
        = (Draft.takeAll ⟨c, seen⟩ (fields.zip vs) >>= fun e => e.complete >>= fun c => pure (c, rest))
  | fields, seen, [], named, new, _, _, _, c, rest => by
    show readItems c fields (.closing .square :: rest) = _
    rw [readItems, if_neg fun there => new .name there named, List.zip_nil_right]
    show _ = (Draft.complete ⟨c, seen⟩ >>= fun c => pure (c, rest))
    rw [Draft.complete, if_pos named]
    rfl
  | [], _, _ :: _, _, _, _, short, _, _, _ => absurd short (Nat.not_succ_le_zero _)
  | f :: fields, seen, v :: vs, named, new, once, short, readable, c, rest => by
    obtain ⟨legible, limits⟩ := readable (f, v) List.mem_cons_self
    obtain ⟨absent, once⟩ := List.nodup_cons.1 once
    have other : f ≠ .name := fun same => new f List.mem_cons_self (same ▸ named)
    have later : ∀ g ∈ fields, g ∉ f :: seen := by
      intro g hg
      rw [List.mem_cons, not_or]
      exact ⟨fun same => absent (same ▸ hg), new g (List.mem_cons_of_mem f hg)⟩
    have unfolded : readItems c (f :: fields) (.comma :: (v.tokens ++ (itemTokens vs ++ rest)))
        = (readField c f (v.tokens ++ (itemTokens vs ++ rest)) >>= fun p => readItems p.1 fields p.2) := by
      rw [readItems]
      exact other
    show readItems c (f :: fields) (.comma :: (v.tokens ++ itemTokens vs ++ rest)) = _
    rw [List.append_assoc, unfolded, readField_tokens legible limits, List.zip_cons_cons, Draft.takeAll_cons, Draft.take,
      if_neg (new f List.mem_cons_self)]
    simp only [bind_assoc, pure_bind]
    refine bind_congr fun p => ?_
    exact readItems_tokens (List.mem_cons_of_mem f named) later once (Nat.le_of_succ_le_succ short)
      (fun q hq => readable q (List.mem_cons_of_mem _ hq)) p.1 rest

theorem readItems_name (c : ServiceConfig) (fields : List Field) (v : Form) (ts : List Token) :
    readItems c (.name :: fields) (v.tokens ++ ts)
      = (readField c .name (v.tokens ++ ts) >>= fun p => readItems p.1 fields p.2) := by
  obtain ⟨tail, hv⟩ := tokens_eq_firstToken v
  rw [hv, List.cons_append, readItems]
  · exact nofun
  · intro ts h
    cases v <;> cases h

/-- **An array is read as the row of the fields whose values it lists.** -/
theorem parse_array {v : Form} {vs : List Form} {text : String} (spelled : (Form.array (v :: vs)).Spelled text.toList)
    (short : (v :: vs).length ≤ Field.all.length) (readable : Readable (Field.all.zip (v :: vs))) :
    parse text = (Draft.takeAll {} (Field.all.zip (v :: vs)) >>= Draft.complete) := by
  obtain ⟨legible, limits⟩ := readable (.name, v) List.mem_cons_self
  have items : ∀ c, readItems c Field.all.tail (itemTokens vs ++ []) = (Draft.takeAll ⟨c, [.name]⟩ (Field.all.tail.zip vs)
      >>= fun e => e.complete >>= fun c => pure (c, [])) := fun c =>
    readItems_tokens List.mem_cons_self (by decide) (by decide) (Nat.le_of_succ_le_succ short)
      (fun q hq => readable q (List.mem_cons_of_mem _ hq)) c []
  refine parse_eq (Form.tokens_of_spelled spelled) ?_
  show readItems { name := "" } (.name :: Field.all.tail) (v.tokens ++ itemTokens vs)
    = (Draft.takeAll {} ((.name, v) :: Field.all.tail.zip vs) >>= _)
  rw [← List.append_nil (v.tokens ++ itemTokens vs), List.append_assoc, readItems_name, readField_tokens legible limits,
    Draft.takeAll_cons, Draft.take, if_neg List.not_mem_nil]
  simp only [bind_assoc, pure_bind, items]

/-! ## Configurations -/

/-- A row of fields with each that is there once and of its type, and a name. -/
structure Complete (fs : List (Field × Form)) : Prop where
  once : (fs.map (·.1)).Nodup
  typed : ∀ p ∈ fs, ∃ w, p.2.value? = some w ∧ p.1.Takes w
  named : .name ∈ fs.map (·.1)

/-- **What the parser makes of a row of fields.** -/
theorem drafted_eq_ok_iff {fs : List (Field × Form)} (readable : Readable fs) {c : ServiceConfig} :
    (Draft.takeAll {} fs >>= Draft.complete) = .ok c ↔ Complete fs ∧ Gives fs c := by
  have follows : ∀ {e}, Draft.takeAll {} fs = .ok e → Draft.Follows fs e := Draft.follows_nil.takeAll readable
  constructor
  · intro drafted
    obtain ⟨e, taken, completed⟩ := bind_eq_ok.1 drafted
    have after := follows taken
    unfold Draft.complete at completed
    split at completed
    · rename_i named
      obtain rfl := Except.ok.inj completed
      refine ⟨⟨after.once, fun p hp => ?_, (after.seen .name).1 named⟩, after.gives⟩
      exact ⟨_, after.gives.given p hp, fieldValue_takes e.config p.1⟩
    · cases completed
  · rintro ⟨complete, gives⟩
    obtain ⟨e, taken⟩ := Draft.takeAll_succeeds (d := {}) readable complete.once (fun _ _ => List.not_mem_nil)
      complete.typed
    have after := follows taken
    rw [taken, gives.eq after.gives]
    exact if_pos ((after.seen .name).2 complete.named)

theorem Loadable.complete {fs : List (Field × Form)} (h : Loadable fs) : Complete fs := by
  obtain ⟨v, s, hv, -⟩ := h.named
  exact ⟨h.once, h.typed, List.mem_map.2 ⟨_, hv, rfl⟩⟩

/-- A complete row of fields loads unless its name is blank. -/
theorem Complete.loadable_iff {fs : List (Field × Form)} {c : ServiceConfig} (h : Complete fs) (gives : Gives fs c) :
    Loadable fs ↔ Text.isAllBlank c.name.toList = false := by
  constructor
  · intro loadable
    obtain ⟨v, s, hv, value, named⟩ := loadable.named
    obtain rfl : s = c.name := Value.string.inj (Option.some.inj (value.symm.trans (gives.given _ hv)))
    exact named
  · intro named
    obtain ⟨⟨f, v⟩, hv, rfl⟩ := List.mem_map.1 h.named
    exact ⟨h.once, h.typed, v, c.name, hv, gives.given _ hv, named⟩

theorem ofText_of_parse {text : String} {c : ServiceConfig} (parsed : parse text = .ok c) :
    ofText text = if Text.isAllBlank c.name.toList then .error .emptyName else .ok c := by
  rw [ofText, parsed]

theorem parse_of_ofText {text : String} {c : ServiceConfig} (h : ofText text = .ok c) :
    parse text = .ok c ∧ Text.isAllBlank c.name.toList = false := by
  cases parsed : parse text with
  | error fault =>
    rw [ofText, parsed] at h
    cases h
  | ok d =>
    rw [ofText_of_parse parsed] at h
    split at h
    · cases h
    · rename_i named
      obtain rfl := Except.ok.inj h
      exact ⟨rfl, Bool.eq_false_iff.2 named⟩

/-- **Which rows of fields load, and as what.** -/
theorem ofText_record {fs : List (Field × Form)} {text : String} (readable : Readable fs)
    (parsed : parse text = (Draft.takeAll {} fs >>= Draft.complete)) (c : ServiceConfig) :
    ofText text = .ok c ↔ Loadable fs ∧ Gives fs c := by
  constructor
  · intro h
    obtain ⟨ok, named⟩ := parse_of_ofText h
    obtain ⟨complete, gives⟩ := (drafted_eq_ok_iff readable).1 (parsed.symm.trans ok)
    exact ⟨(complete.loadable_iff gives).2 named, gives⟩
  · rintro ⟨loadable, gives⟩
    have ok := parsed.trans ((drafted_eq_ok_iff readable).2 ⟨loadable.complete, gives⟩)
    rw [ofText_of_parse ok, (loadable.complete.loadable_iff gives).1 loadable]
    rfl

/-- A row of fields that are there once and of their types gives a configuration. -/
theorem Complete.gives {fs : List (Field × Form)} (h : Complete fs) (readable : Readable fs) : ∃ c, Gives fs c := by
  obtain ⟨e, taken⟩ := Draft.takeAll_succeeds (d := {}) readable h.once (fun _ _ => List.not_mem_nil) h.typed
  exact ⟨e.config, (Draft.follows_nil.takeAll readable taken).gives⟩

theorem load_of_content {read : FileReader} {path text : String} (content : read path = .ok text) :
    load read path = (ofText text).mapError (⟨path, ·⟩) := by
  rw [load, content]

theorem load_eq_ok_iff {read : FileReader} {path text : String} (content : read path = .ok text) {c : ServiceConfig} :
    load read path = .ok c ↔ ofText text = .ok c := by
  rw [load_of_content content]
  cases ofText text with
  | error fault => exact ⟨nofun, nofun⟩
  | ok d => exact ⟨fun h => congrArg Except.ok (Except.ok.inj h), fun h => congrArg Except.ok (Except.ok.inj h)⟩

theorem toOption_eq_of_ok_iff {ε ε' α : Type} {x : Except ε α} {y : Except ε' α} (h : ∀ a, x = .ok a ↔ y = .ok a) :
    x.toOption = y.toOption := by
  cases y with
  | ok a => rw [(h a).2 rfl]; rfl
  | error fault =>
    cases x with
    | ok a => cases (h a).1 rfl
    | error fault => rfl

/-! ## The context -/

theorem readField_context {c d : ServiceConfig} {f : Field} {ts rest : List Token}
    (h : readField c f ts = .ok (d, rest)) : d.context = c.context := by
  cases f <;> (obtain ⟨_, _, h⟩ := bind_eq_ok.1 h; cases h; rfl)

theorem readMember_context {d e : Draft} {key : String} {ts rest : List Token}
    (h : d.readMember key ts = .ok (e, rest)) : e.config.context = d.config.context := by
  unfold Draft.readMember at h
  split at h
  · obtain ⟨_, _, h⟩ := bind_eq_ok.1 h
    obtain ⟨_, _, h⟩ := bind_eq_ok.1 h
    cases h
    rfl
  · split at h
    · cases h
    · obtain ⟨_, _, h⟩ := bind_eq_ok.1 h
      obtain ⟨_, read, h⟩ := bind_eq_ok.1 h
      cases h
      exact readField_context read

theorem readMembers_context {d : Draft} {first : Bool} {ts rest : List Token} {c : ServiceConfig}
    (h : readMembers d first ts = .ok (c, rest)) : c.context = d.config.context := by
  fun_induction readMembers d first ts with
  | case1 => cases h
  | case2 d first ts after last =>
    obtain ⟨_, completed, h⟩ := bind_eq_ok.1 h
    cases h
    unfold Draft.complete at completed
    split at completed <;> cases completed
    rfl
  | case3 => cases h
  | case4 d first ts key afterKey next e after taken ih => exact (ih h).trans (readMember_context taken)

theorem readItems_context {c d : ServiceConfig} {fields : List Field} {ts rest : List Token}
    (h : readItems c fields ts = .ok (d, rest)) : d.context = c.context := by
  fun_induction readItems c fields ts with
  | case1 => cases h
  | case2 => cases h
  | case3 =>
    cases h
    rfl
  | case4 c ts fields some items ih =>
    obtain ⟨p, read, h⟩ := bind_eq_ok.1 h
    exact (ih _ _ h).trans (readField_context read)
  | case5 c f fields ts items ih =>
    obtain ⟨p, read, h⟩ := bind_eq_ok.1 h
    exact (ih _ _ h).trans (readField_context read)
  | case6 => cases h

/-- **No file says when a run ends**, whatever is in it. -/
theorem load_context {read : FileReader} {path : String} {c : ServiceConfig} (h : load read path = .ok c) :
    c.context = .never := by
  cases content : read path with
  | error fault =>
    rw [load, content] at h
    cases h
  | ok text =>
    obtain ⟨parsed, -⟩ := parse_of_ofText ((load_eq_ok_iff content).1 h)
    unfold parse at parsed
    split at parsed <;> cases parsed
    rename_i record
    unfold readRecord at record
    split at record
    · cases record
    · exact readMembers_context record
    · exact readItems_context record
    · exact absurd record refuse_ne_ok

/-! ## All spellings -/

/-- **All spellings of a record load alike.**  An object loads if and only if no field is there twice, each has a value of
its type and there is a name that is not blank; then each field is what is there, or its default, and the context never
ends.  Another text loads as the same if its fields are the same in any order, whatever else is there and wherever
blanks stand, and so does an array that lists the values of the fields up to some place. -/
theorem load_record {read : FileReader} {path text : String} {ms : List (List Piece × Form)}
    (content : read path = .ok text) (h : Holds text ms) :
    ((∃ c, load read path = .ok c) ↔ Loadable (fieldsOf ms)) ∧
    (∀ c, load read path = .ok c → Gives (fieldsOf ms) c) ∧
    (∀ {read' : FileReader} {path' text' : String} {ms' : List (List Piece × Form)}, read' path' = .ok text' →
      Holds text' ms' → (fieldsOf ms').Perm (fieldsOf ms) → (load read' path').toOption = (load read path).toOption) ∧
    ∀ {read' : FileReader} {text' : String} {vs : List Form}, read' path = .ok text' →
      (Form.array vs).Spelled text'.toList → 0 < vs.length → vs.length ≤ Field.all.length →
      fieldsOf ms = Field.all.zip vs → load read' path = load read path := by
  have parsed := parse_object h
  have loads := fun c => (load_eq_ok_iff content).trans (ofText_record h.readable parsed c)
  refine ⟨⟨?_, fun loadable => ?_⟩, fun c ok => ((loads c).1 ok).2, ?_, ?_⟩
  · rintro ⟨c, ok⟩
    exact ((loads c).1 ok).1
  · obtain ⟨c, gives⟩ := loadable.complete.gives h.readable
    exact ⟨c, (loads c).2 ⟨loadable, gives⟩⟩
  · intro read' path' text' ms' content' h' same
    have loads' := fun c => (load_eq_ok_iff content').trans (ofText_record h'.readable (parse_object h') c)
    refine toOption_eq_of_ok_iff fun c => ?_
    rw [loads, loads']
    exact ⟨fun ⟨loadable, gives⟩ => ⟨loadable.perm same, gives.perm same⟩,
      fun ⟨loadable, gives⟩ => ⟨loadable.perm same.symm, gives.perm same.symm⟩⟩
  · intro read' text' vs content' spelled some short fields
    obtain ⟨v, vs, rfl⟩ := List.exists_cons_of_length_pos some
    have parsed' := parse_array spelled short (fields ▸ h.readable)
    rw [load_of_content content', load_of_content content, ofText, ofText, parsed', parsed, fields]

/-- A context in the file is passed over, and the array of the name alone loads as the same. -/
theorem load_record_named : ∃ ms, Holds "\x7b \"context\": null, \"name\": \"a\" \x7d" ms ∧ Loadable (fieldsOf ms) ∧
    (∃ c, load (fun _ => .ok "\x7b \"context\": null, \"name\": \"a\" \x7d") "p" = .ok c) ∧
    load (fun _ => .ok "[\"a\"]") "p" = load (fun _ => .ok "\x7b \"context\": null, \"name\": \"a\" \x7d") "p" := by
  let context := "context".toList
  let name := "name".toList
  let value := Form.string (['a'].map .char)
  let ms : List (List Piece × Form) := [(context.map .char, .null), (name.map .char, value)]
  have spelled : (Form.object ms).Spelled "\x7b \"context\": null, \"name\": \"a\" \x7d".toList :=
    .token .openCurly <| .blank rfl <| .token (.string (piecesSpelled_plain context (by simp [context]))) <|
    .token .colon <| .blank rfl <| .token .null <| .token .comma <| .blank rfl <|
    .token (.string (piecesSpelled_plain name (by simp [name]))) <| .token .colon <| .blank rfl <|
    .token (.string (piecesSpelled_plain ['a'] (by simp))) <| .blank rfl <| .token .closeCurly .nil
  have listed : (Form.array [value]).Spelled "[\"a\"]".toList :=
    .token .openSquare <| .token (.string (piecesSpelled_plain ['a'] (by simp))) <| .token .closeSquare .nil
  have fields : fieldsOf ms = [(.name, value)] := by
    rw [fieldsOf_unknown (text?_of_denotes (denotes_chars context)) (by decide),
      fieldsOf_field (text?_of_denotes (denotes_chars name)) (Field.ofKey?_key .name)]
    rfl
  have legible : Legible (.object ms) := by
    intro ps hps
    simp only [Form.strings, membersStrings, ms, value, List.mem_cons, List.append_nil, List.nil_append,
      List.not_mem_nil, or_false] at hps
    rcases hps with rfl | rfl | rfl <;> exact ⟨_, denotes_chars _⟩
  have holds := holds_of_legible spelled legible (by rw [fields]; rintro v ⟨⟩; contradiction)
  have loadable : Loadable (fieldsOf ms) := by
    have text : value.value? = some (.string "a") := by
      rw [Form.value?, text?_of_denotes (denotes_chars ['a'])]
      rfl
    rw [fields]
    refine ⟨List.nodup_cons.2 ⟨List.not_mem_nil, List.nodup_nil⟩, ?_, value, "a", List.mem_cons_self, text, by decide⟩
    rintro p hp
    obtain rfl := List.mem_singleton.1 hp
    exact ⟨_, text, "a", rfl⟩
  obtain ⟨loads, -, -, alike⟩ := @load_record (fun _ => .ok _) "p" _ ms rfl holds
  exact ⟨ms, holds, loadable, loads.2 loadable, alike rfl listed (by decide) (by decide) fields⟩

end ServiceControl.ServiceConfig
