import ServiceControl.Json.Printer
import ServiceControl.Proofs.Json.Spelling
/-!
# Values as they are written

The writer and the reader of JSON values meet in the written form.  Main statement: the text of a value without doubles
spells a written value that denotes it and is as deep (`Value.written`), so what is written is read as it was.
-/
namespace ServiceControl.Json

/-! ## Values -/

mutual

/-- **The values that are written without loss.**  Integers fit a signed or an unsigned 64-bit word, there are no doubles,
and no object has a key twice. -/
def Value.Plain : Value → Prop
  | .number (.integer i) => -2 ^ 63 ≤ i ∧ i < 2 ^ 64
  | .number (.float _) => False
  | .array vs => Value.ItemsPlain vs
  | .object ms => (NameMap.keys ms).Nodup ∧ Value.MembersPlain ms
  | _ => True

def Value.ItemsPlain : List Value → Prop
  | [] => True
  | v :: vs => v.Plain ∧ Value.ItemsPlain vs

def Value.MembersPlain : NameMap Value → Prop
  | [] => True
  | (_, v) :: ms => v.Plain ∧ Value.MembersPlain ms

end

mutual

/-- The most containers that are one within another in a value. -/
def Value.depth : Value → Nat
  | .array vs => Value.itemsDepth vs + 1
  | .object ms => Value.membersDepth ms + 1
  | _ => 0

def Value.itemsDepth : List Value → Nat
  | [] => 0
  | v :: vs => max v.depth (Value.itemsDepth vs)

def Value.membersDepth : NameMap Value → Nat
  | [] => 0
  | (_, v) :: ms => max v.depth (Value.membersDepth ms)

end

theorem Value.membersPlain_iff : ∀ {ms : NameMap Value}, Value.MembersPlain ms ↔ ∀ m ∈ ms, m.2.Plain
  | [] => ⟨fun _ => nofun, fun _ => trivial⟩
  | (_, v) :: ms => by
    rw [Value.MembersPlain, Value.membersPlain_iff, List.forall_mem_cons]

theorem Value.itemsPlain_iff : ∀ {vs : List Value}, Value.ItemsPlain vs ↔ ∀ v ∈ vs, v.Plain
  | [] => ⟨fun _ => nofun, fun _ => trivial⟩
  | v :: vs => by
    rw [Value.ItemsPlain, Value.itemsPlain_iff, List.forall_mem_cons]

theorem Value.membersDepth_le_iff {n : Nat} : ∀ {ms : NameMap Value},
    Value.membersDepth ms ≤ n ↔ ∀ m ∈ ms, m.2.depth ≤ n
  | [] => ⟨fun _ => nofun, fun _ => Nat.zero_le n⟩
  | (_, v) :: ms => by
    rw [Value.membersDepth, Nat.max_le, Value.membersDepth_le_iff, List.forall_mem_cons]

/-! ## Strings -/

theorem longEscape_spelled {n : Nat} (control : n < 0x20) :
    ∃ a b c d, longEscape (Char.ofNat n) = ['\\', 'u', a, b, c, d] ∧ hex4? a b c d = some n := by
  interval_cases n <;> exact ⟨_, _, _, _, rfl, rfl⟩

/-- **How a character is written, it is read.** -/
theorem escapeChar_spelled (c : Char) : ∃ p : Piece, p.Spelled (escapeChar c) ∧
    ∀ {ps : List Piece} {cs : List Char}, Denotes ps cs → Denotes (p :: ps) (c :: cs) := by
  unfold escapeChar
  split
  case h_8 =>
    rename_i quote backslash _ _ _ _ _
    split
    · rename_i control
      obtain ⟨x, y, z, w, escaped, value⟩ := longEscape_spelled control
      rw [Char.ofNat_toNat] at escaped
      rw [escaped]
      refine ⟨.unit c.toNat, .long value, fun rest => ?_⟩
      have low : Text.isHighSurrogate c.toNat = false ∧ Text.isLowSurrogate c.toNat = false := by
        simp only [Text.isHighSurrogate, Text.isLowSurrogate, Bool.and_eq_false_iff, decide_eq_false_iff_not]
        omega
      have unit := Denotes.unit low.1 low.2 rest
      rw [Char.ofNat_toNat] at unit
      exact unit
    · rename_i printable
      exact ⟨.char c, .plain (Nat.not_lt.1 printable) quote backslash, fun rest => .char c rest⟩
  all_goals exact ⟨.char _, .short rfl, fun rest => .char _ rest⟩

theorem escaped_spelled : ∀ cs : List Char, ∃ ps, PiecesSpelled ps (cs.flatMap escapeChar) ∧ Denotes ps cs
  | [] => ⟨[], .nil, .nil⟩
  | c :: cs => by
    obtain ⟨p, head, denotes⟩ := escapeChar_spelled c
    obtain ⟨ps, tail, rest⟩ := escaped_spelled cs
    exact ⟨p :: ps, .cons head tail, denotes rest⟩

/-- **Every string is read as it was written.** -/
theorem renderString_spelled (s : String) :
    ∃ ps, (Token.string ps).Spelled (renderString s) ∧ Piece.text? ps = some s := by
  obtain ⟨ps, spelled, denotes⟩ := escaped_spelled s.toList
  exact ⟨ps, .string spelled, text?_eq_some_iff.2 denotes⟩

/-! ## Integers -/

theorem digitsValue_append (ds : List Nat) (d : Nat) :
    Numeral.digitsValue (ds ++ [d]) = Numeral.digitsValue ds * 10 + d := List.foldl_append

/-- The decimal digits of a natural number. -/
theorem toDigits_spelled (n : Nat) : ∃ ds, DigitRow ds ∧ (ds.head? = some 0 → ds = [0]) ∧
    Nat.toDigits 10 n = digitChars ds ∧ Numeral.digitsValue ds = n := by
  induction n using Nat.strongRecOn with
  | ind n ih =>
    by_cases small : n < 10
    · refine ⟨[n], ⟨List.cons_ne_nil n [], ?_⟩, ?_, Nat.toDigits_of_lt_base small, Nat.zero_add n⟩
      · rintro d hd
        rw [List.mem_singleton.1 hd]
        exact small
      · intro zero
        rw [Option.some.inj zero]
    · obtain ⟨ds, row, zero, digits, value⟩ := ih (n / 10) (by omega)
      -- a zero in front would be all that the digits before the last one are, and then there are none
      refine ⟨ds ++ [n % 10], ⟨List.append_ne_nil_of_right_ne_nil ds (List.cons_ne_nil _ _), ?_⟩, fun first => ?_, ?_, ?_⟩
      · rintro d hd
        rcases List.mem_append.1 hd with hd | hd
        · exact row.2 d hd
        · rw [List.mem_singleton.1 hd]
          omega
      · have head : (ds ++ [n % 10]).head? = ds.head? := by
          cases ds with
          | nil => exact absurd rfl row.1
          | cons d ds => rfl
        rw [zero (head.symm.trans first)] at value
        have : n / 10 = 0 := value.symm
        omega
      · rw [Nat.toDigits_of_base_le (by decide) (Nat.not_lt.1 small), digits, digitChars, digitChars, List.map_append]
        rfl
      · rw [digitsValue_append, value]
        omega

/-- **Every integer of 64 bits is read as it was written.** -/
theorem integer_spelled {i : Int} (least : -2 ^ 63 ≤ i) (most : i < 2 ^ 64) :
    ∃ n : Numeral, n.Spelled (toString i).toList ∧ n.number? = some (.integer i) := by
  obtain ⟨ds, row, zero, digits, value⟩ := toDigits_spelled i.natAbs
  have integer : Numeral.integer? ⟨decide (i < 0), ds, [], none⟩ = some i := by
    rw [Numeral.integer?, if_pos ⟨rfl, rfl⟩]
    simp only [value, decide_eq_true_eq]
    by_cases negative : i < 0
    · have bounds : 0 < i.natAbs ∧ i.natAbs ≤ Nat.pow 2 63 := by
        rw [show Nat.pow 2 63 = 9223372036854775808 from rfl]
        omega
      rw [if_pos negative, if_pos bounds]
      exact congrArg some (by omega)
    · have bound : i.natAbs ≤ Text.largestWord64 := by
        rw [Text.largestWord64]
        omega
      rw [if_neg negative, if_pos bound]
      exact congrArg some (by omega)
  refine ⟨⟨decide (i < 0), ds, [], none⟩, ?_, Numeral.number?_of_integer integer⟩
  have text : (toString i).toList = (if decide (i < 0) = true then ['-'] else []) ++ (digitChars ds ++ ([] ++ [])) := by
    rw [← digits, List.append_nil, List.append_nil, Int.toString_eq_repr, Int.repr_eq_if]
    by_cases negative : i < 0
    · have magnitude : (-i).toNat = i.natAbs := by omega
      rw [if_neg (by omega), if_pos (decide_eq_true negative), String.toList_append, Nat.toList_repr, magnitude]
      rfl
    · have magnitude : i.toNat = i.natAbs := by omega
      rw [if_pos (by omega), if_neg (by rw [decide_eq_true_eq]; exact negative), Nat.toList_repr, magnitude]
      rfl
  rw [text]
  exact .mk row zero .absent .absent

/-! ## Texts of values -/

theorem spells_append {ts us : List Token} {cs ds : List Char} (h : Spells ts cs) (rest : Spells us ds) :
    Spells (ts ++ us) (cs ++ ds) := by
  induction h with
  | nil => exact rest
  | blank space _ ih => exact .blank space ih
  | token head _ ih =>
    rw [List.append_assoc]
    exact .token head ih

/-- A written value that is the text of a value. -/
structure Writes (f : Form) (v : Value) : Prop where
  spelled : f.Spelled v.render
  value : f.value? = some v
  depth : f.depth = v.depth

/-- Members that denote those of an object one by one. -/
def MembersDenote : List (List Piece × Form) → NameMap Value → Prop :=
  List.Forall₂ fun m p => Piece.text? m.1 = some p.1 ∧ m.2.value? = some p.2 ∧ m.2.depth = p.2.depth

theorem put_new {name : String} {value : Value} : ∀ {ms : NameMap Value}, name ∉ NameMap.keys ms →
    NameMap.put name value ms = ms ++ [(name, value)]
  | [], _ => rfl
  | m :: ms, new => by
    obtain ⟨other, new⟩ := not_or.1 (List.mem_cons.not.1 new)
    rw [NameMap.put, if_neg (Ne.symm other), put_new new, List.cons_append]

/-- Members without a key twice denote the object. -/
theorem MembersDenote.value {fs : List (List Piece × Form)} {ms : NameMap Value} (h : MembersDenote fs ms) :
    ∀ {before : NameMap Value}, (NameMap.keys (before ++ ms)).Nodup → memberValues? before fs = some (before ++ ms) := by
  induction h with
  | nil =>
    intro before _
    rw [List.append_nil]
    rfl
  | @cons m p fs ms head _ ih =>
    intro before distinct
    obtain ⟨key, value, -⟩ := head
    have new : p.1 ∉ NameMap.keys before := by
      rw [NameMap.keys, List.map_append, List.nodup_append] at distinct
      exact fun there => distinct.2.2 p.1 there p.1 List.mem_cons_self rfl
    rw [List.append_cons] at distinct ⊢
    exact memberValues?_cons.2 ⟨p.1, p.2, key, value, by rw [put_new new]; exact ih distinct⟩

theorem MembersDenote.keys {fs : List (List Piece × Form)} {ms : NameMap Value} (h : MembersDenote fs ms) :
    ∀ m ∈ fs, ∃ cs, Denotes m.1 cs := by
  induction h with
  | nil => exact nofun
  | cons head _ ih => exact List.forall_mem_cons.2 ⟨⟨_, text?_eq_some_iff.1 head.1⟩, ih⟩

theorem MembersDenote.depth {fs : List (List Piece × Form)} {ms : NameMap Value} (h : MembersDenote fs ms) :
    membersDepth fs = Value.membersDepth ms := by
  induction h with
  | nil => rfl
  | cons head _ ih => rw [membersDepth, Value.membersDepth, head.2.2, ih]

mutual

/-- **The text of a plain value is a written value that denotes it.** -/
theorem Value.written : ∀ {v : Value}, v.Plain → ∃ f, Writes f v
  | .null, _ => ⟨.null, .token .null .nil, rfl, rfl⟩
  | .bool true, _ => ⟨.bool true, .token .true .nil, rfl, rfl⟩
  | .bool false, _ => ⟨.bool false, .token .false .nil, rfl, rfl⟩
  | .number (.integer i), plain => by
    obtain ⟨n, spelled, number⟩ := integer_spelled plain.1 plain.2
    refine ⟨.numeral n, ?_, by rw [Form.value?, number]; rfl, rfl⟩
    have whole : Spells [.numeral n] ((toString i).toList ++ []) := .token (.numeral spelled) .nil
    rw [List.append_nil] at whole
    exact whole
  | .number (.float _), plain => plain.elim
  | .string s, _ => by
    obtain ⟨ps, spelled, text⟩ := renderString_spelled s
    refine ⟨.string ps, ?_, by rw [Form.value?, text]; rfl, rfl⟩
    have whole : Spells [.string ps] (renderString s ++ []) := .token spelled .nil
    rw [List.append_nil] at whole
    exact whole
  | .array [], _ => ⟨.array [], .token .openSquare (.token .closeSquare .nil), rfl, rfl⟩
  | .array (v :: vs), plain => by
    obtain ⟨f, first⟩ := Value.written plain.1
    obtain ⟨fs, spelled, values, depth⟩ := Value.itemsWritten plain.2
    have whole : (Form.array (f :: fs)).Spelled (['['] ++ (v.render ++ renderItems vs)) :=
      .token .openSquare (spells_append first.spelled spelled)
    refine ⟨.array (f :: fs), whole, ?_, ?_⟩
    · rw [Form.value?, itemValues?_cons.2 ⟨v, vs, first.value, values, rfl⟩]
      rfl
    · rw [Form.depth, Value.depth, Json.itemsDepth, Value.itemsDepth, first.depth, depth]
  | .object ms, plain => by
    obtain ⟨fs, spelled, denote⟩ := Value.objectWritten plain.2
    refine ⟨.object fs, spelled, ?_, ?_⟩
    · have members : memberValues? [] fs = some ms := denote.value plain.1
      rw [Form.value?, members]
      rfl
    · rw [Form.depth, Value.depth, denote.depth]

theorem Value.itemsWritten : ∀ {vs : List Value}, Value.ItemsPlain vs → ∃ fs, Spells (itemTokens fs) (renderItems vs) ∧
    itemValues? fs = some vs ∧ Json.itemsDepth fs = Value.itemsDepth vs
  | [], _ => ⟨[], .token .closeSquare .nil, rfl, rfl⟩
  | v :: vs, plain => by
    obtain ⟨f, first⟩ := Value.written plain.1
    obtain ⟨fs, spelled, values, depth⟩ := Value.itemsWritten plain.2
    have whole : Spells (itemTokens (f :: fs)) ([','] ++ (v.render ++ renderItems vs)) :=
      .token .comma (spells_append first.spelled spelled)
    refine ⟨f :: fs, whole, ?_, ?_⟩
    · exact itemValues?_cons.2 ⟨v, vs, first.value, values, rfl⟩
    · rw [Json.itemsDepth, Value.itemsDepth, first.depth, depth]

theorem Value.objectWritten : ∀ {ms : NameMap Value}, Value.MembersPlain ms →
    ∃ fs, (Form.object fs).Spelled (Value.object ms).render ∧ MembersDenote fs ms
  | [], _ => ⟨[], .token .openCurly (.token .closeCurly .nil), .nil⟩
  | (k, v) :: ms, plain => by
    obtain ⟨ps, key, text⟩ := renderString_spelled k
    obtain ⟨f, first⟩ := Value.written plain.1
    obtain ⟨fs, spelled, denote⟩ := Value.membersWritten plain.2
    refine ⟨(ps, f) :: fs, ?_, .cons ⟨text, first.value, first.depth⟩ denote⟩
    have whole : (Form.object ((ps, f) :: fs)).Spelled
        (['\x7b'] ++ (renderString k ++ ([':'] ++ (v.render ++ renderMembers ms)))) :=
      .token .openCurly (.token key (.token .colon (spells_append first.spelled spelled)))
    rw [Value.render, List.append_assoc, List.cons_append]
    exact whole

theorem Value.membersWritten : ∀ {ms : NameMap Value}, Value.MembersPlain ms →
    ∃ fs, Spells (memberTokens fs) (renderMembers ms) ∧ MembersDenote fs ms
  | [], _ => ⟨[], .token .closeCurly .nil, .nil⟩
  | (k, v) :: ms, plain => by
    obtain ⟨ps, key, text⟩ := renderString_spelled k
    obtain ⟨f, first⟩ := Value.written plain.1
    obtain ⟨fs, spelled, denote⟩ := Value.membersWritten plain.2
    refine ⟨(ps, f) :: fs, ?_, .cons ⟨text, first.value, first.depth⟩ denote⟩
    have whole : Spells (memberTokens ((ps, f) :: fs))
        ([','] ++ (renderString k ++ ([':'] ++ (v.render ++ renderMembers ms)))) :=
      .token .comma (.token key (.token .colon (spells_append first.spelled spelled)))
    rw [renderMembers, List.append_assoc, List.cons_append]
    exact whole

end

end ServiceControl.Json
