import ServiceControl.Json.Reader
/-!
# Written values

A value as it is written, with its strings as rows of pieces and its numbers as rows of digits.  What it is worth is a
second thing: it denotes a value if no surrogate stands alone in its strings and its numbers are not too large
(`Form.value?_isSome`).  Main statements: one who passes over a written value comes to what follows it
(`Form.skipFrom_tokens`), and one who keeps it has what it denotes, unless it is too deep (`Form.readFrom_tokens`).
-/
namespace ServiceControl.Json

open Text (isHighSurrogate isLowSurrogate pairPoint)

/-- A written value.  The members of an object stand in any order, and a key may stand there again. -/
inductive Form
  | null
  | bool (value : Bool)
  | numeral (n : Numeral)
  | string (pieces : List Piece)
  | array (items : List Form)
  | object (members : List (List Piece × Form))
  deriving Inhabited

/-! ## Tokens -/

mutual

/-- The tokens of a written value. -/
def Form.tokens : Form → List Token
  | .null => [.null]
  | .bool b => [.bool b]
  | .numeral n => [.numeral n]
  | .string ps => [.string ps]
  | .array [] => [.opening .square, .closing .square]
  | .array (v :: vs) => .opening .square :: (v.tokens ++ itemTokens vs)
  | .object [] => [.opening .curly, .closing .curly]
  | .object ((k, v) :: ms) => .opening .curly :: .string k :: .colon :: (v.tokens ++ memberTokens ms)

/-- The items after the first, and the closing bracket. -/
def itemTokens : List Form → List Token
  | [] => [.closing .square]
  | v :: vs => .comma :: (v.tokens ++ itemTokens vs)

/-- The members after the first, and the closing bracket. -/
def memberTokens : List (List Piece × Form) → List Token
  | [] => [.closing .curly]
  | (k, v) :: ms => .comma :: .string k :: .colon :: (v.tokens ++ memberTokens ms)

end

/-! ## What is written in a value -/

mutual

/-- The most containers that are open at once within a value. -/
def Form.depth : Form → Nat
  | .array items => itemsDepth items + 1
  | .object members => membersDepth members + 1
  | _ => 0

def itemsDepth : List Form → Nat
  | [] => 0
  | v :: vs => max v.depth (itemsDepth vs)

def membersDepth : List (List Piece × Form) → Nat
  | [] => 0
  | (_, v) :: ms => max v.depth (membersDepth ms)

end

mutual

/-- All strings that are written in a value, the keys of objects among them. -/
def Form.strings : Form → List (List Piece)
  | .string ps => [ps]
  | .array items => itemsStrings items
  | .object members => membersStrings members
  | _ => []

def itemsStrings : List Form → List (List Piece)
  | [] => []
  | v :: vs => v.strings ++ itemsStrings vs

def membersStrings : List (List Piece × Form) → List (List Piece)
  | [] => []
  | (k, v) :: ms => k :: (v.strings ++ membersStrings ms)

end

mutual

/-- All numbers that are written in a value. -/
def Form.numerals : Form → List Numeral
  | .numeral n => [n]
  | .array items => itemsNumerals items
  | .object members => membersNumerals members
  | _ => []

def itemsNumerals : List Form → List Numeral
  | [] => []
  | v :: vs => v.numerals ++ itemsNumerals vs

def membersNumerals : List (List Piece × Form) → List Numeral
  | [] => []
  | (_, v) :: ms => v.numerals ++ membersNumerals ms

end

/-! ## Strings -/

/-- **What the pieces of a string denote.**  A code unit stands for a character, or a high surrogate and a low one together
do; a surrogate alone denotes nothing. -/
inductive Denotes : List Piece → List Char → Prop
  | nil : Denotes [] []
  | char (c : Char) {ps : List Piece} {cs : List Char} (rest : Denotes ps cs) : Denotes (.char c :: ps) (c :: cs)
  | unit {u : Nat} {ps : List Piece} {cs : List Char} (notHigh : isHighSurrogate u = false)
      (notLow : isLowSurrogate u = false) (rest : Denotes ps cs) : Denotes (.unit u :: ps) (Char.ofNat u :: cs)
  | pair {u v : Nat} {ps : List Piece} {cs : List Char} (high : isHighSurrogate u = true)
      (low : isLowSurrogate v = true) (rest : Denotes ps cs) :
      Denotes (.unit u :: .unit v :: ps) (Char.ofNat (pairPoint u v) :: cs)

theorem denotes_chars : ∀ cs : List Char, Denotes (cs.map .char) cs
  | [] => .nil
  | c :: cs => .char c (denotes_chars cs)

theorem map_eq_ok {ε α β : Type} {x : Except ε α} {f : α → β} {b : β} :
    f <$> x = .ok b ↔ ∃ a, x = .ok a ∧ f a = b := by
  cases x <;> simp [Functor.map, Except.map]

theorem decode_sound {ps : List Piece} {cs : List Char} (h : Piece.decode none ps = .ok cs) : Denotes ps cs := by
  fun_induction Piece.decode none ps generalizing cs with
  | case1 =>
    cases h
    exact .nil
  | case2 => cases h
  | case3 c ps ih =>
    obtain ⟨cs, tail, rfl⟩ := map_eq_ok.1 h
    exact .char c (ih tail)
  | case4 => cases h
  | case5 => cases h
  | case6 u high low ih =>
    obtain ⟨cs, tail, rfl⟩ := map_eq_ok.1 h
    exact .unit (Bool.eq_false_iff.2 high) (Bool.eq_false_iff.2 low) (ih tail)
  | case7 u v ps high low ih =>
    obtain ⟨cs, tail, rfl⟩ := map_eq_ok.1 h
    exact .pair high low (ih tail)
  | case8 => cases h
  | case9 => cases h
  | case10 u v ps high low ih =>
    obtain ⟨cs, tail, rfl⟩ := map_eq_ok.1 h
    exact .unit (Bool.eq_false_iff.2 high) (Bool.eq_false_iff.2 low) (ih tail)
  | case11 => cases h
  | case12 u c ps surrogate ih =>
    obtain ⟨cs, tail, rfl⟩ := map_eq_ok.1 h
    obtain ⟨high, low⟩ := not_or.1 surrogate
    exact .unit (Bool.eq_false_iff.2 high) (Bool.eq_false_iff.2 low) (ih tail)

theorem decode_of_denotes {ps : List Piece} {cs : List Char} (h : Denotes ps cs) : Piece.decode none ps = .ok cs := by
  induction h with
  | nil => rfl
  | char c rest ih =>
    rw [Piece.decode, ih]
    rfl
  | @unit u ps cs notHigh notLow rest ih =>
    match ps with
    | [] =>
      rw [Piece.decode, notHigh, notLow, ih]
      rfl
    | .char c :: ps =>
      rw [Piece.decode, notHigh, notLow, ih]
      rfl
    | .unit v :: ps =>
      rw [Piece.decode, notHigh, notLow, ih]
      rfl
  | pair high low rest ih =>
    rw [Piece.decode, high, low, ih]
    rfl

/-- The text of a string, if no surrogate stands alone in it. -/
def Piece.text? (ps : List Piece) : Option String := (keepString ps none).toOption

theorem keepString_eq_ok_iff {ps : List Piece} {s : String} : keepString ps none = .ok s ↔ Denotes ps s.toList := by
  unfold keepString
  constructor
  · intro h
    split at h
    · rename_i cs decoded
      cases h
      rw [String.toList_ofList]
      exact decode_sound decoded
    · cases h
  · intro h
    rw [decode_of_denotes h]
    exact congrArg Except.ok String.ofList_toList

theorem text?_eq_some_iff {ps : List Piece} {s : String} : Piece.text? ps = some s ↔ Denotes ps s.toList := by
  rw [← keepString_eq_ok_iff, Piece.text?]
  cases keepString ps none with
  | error fault => exact ⟨nofun, nofun⟩
  | ok t => simp [Except.toOption]

theorem text?_of_denotes {ps : List Piece} {cs : List Char} (h : Denotes ps cs) :
    Piece.text? ps = some (String.ofList cs) := by
  rw [text?_eq_some_iff, String.toList_ofList]
  exact h

theorem keepString_text {ps : List Piece} {s : String} (h : Piece.text? ps = some s) : keepString ps none = .ok s :=
  keepString_eq_ok_iff.2 (text?_eq_some_iff.1 h)

/-! ## Values -/

mutual

/-- The value that is written.  In an object the last member under a key counts. -/
def Form.value? : Form → Option Value
  | .null => some .null
  | .bool b => some (.bool b)
  | .numeral n => n.number?.map .number
  | .string ps => (Piece.text? ps).map .string
  | .array items => (itemValues? items).map .array
  | .object members => (memberValues? [] members).map .object

def itemValues? : List Form → Option (List Value)
  | [] => some []
  | v :: vs => do
    let value ← v.value?
    let values ← itemValues? vs
    return value :: values

/-- The members after some that were there before. -/
def memberValues? (before : NameMap Value) : List (List Piece × Form) → Option (NameMap Value)
  | [] => some before
  | (k, v) :: ms => do
    let key ← Piece.text? k
    let value ← v.value?
    memberValues? (NameMap.put key value before) ms

end

/-- What denotes a value is written as one of its kind. -/
theorem Form.kind_of_value? {f : Form} {v : Value} (value : f.value? = some v) :
    match v with
    | .null => f = .null
    | .bool b => f = .bool b
    | .number _ => ∃ n, f = .numeral n
    | .string _ => ∃ ps, f = .string ps
    | .array _ => ∃ items, f = .array items
    | .object _ => ∃ members, f = .object members := by
  cases f with
  | null =>
    obtain rfl := Option.some.inj value
    rfl
  | bool b =>
    obtain rfl := Option.some.inj value
    rfl
  | numeral n =>
    obtain ⟨_, -, rfl⟩ := Option.map_eq_some_iff.1 value
    exact ⟨n, rfl⟩
  | string ps =>
    obtain ⟨_, -, rfl⟩ := Option.map_eq_some_iff.1 value
    exact ⟨ps, rfl⟩
  | array items =>
    obtain ⟨_, -, rfl⟩ := Option.map_eq_some_iff.1 value
    exact ⟨items, rfl⟩
  | object members =>
    obtain ⟨_, -, rfl⟩ := Option.map_eq_some_iff.1 value
    exact ⟨members, rfl⟩

theorem itemValues?_cons {v : Form} {vs : List Form} {ws : List Value} : itemValues? (v :: vs) = some ws ↔
    ∃ value values, v.value? = some value ∧ itemValues? vs = some values ∧ value :: values = ws := by
  rw [itemValues?]
  constructor
  · intro h
    obtain ⟨value, head, h⟩ := Option.bind_eq_some_iff.1 h
    obtain ⟨values, tail, h⟩ := Option.bind_eq_some_iff.1 h
    exact ⟨value, values, head, tail, Option.some.inj h⟩
  · rintro ⟨value, values, head, tail, rfl⟩
    rw [head, tail]
    rfl

theorem memberValues?_cons {k : List Piece} {v : Form} {ms : List (List Piece × Form)} {before after : NameMap Value} :
    memberValues? before ((k, v) :: ms) = some after ↔ ∃ key value, Piece.text? k = some key ∧ v.value? = some value ∧
      memberValues? (NameMap.put key value before) ms = some after := by
  rw [memberValues?]
  constructor
  · intro h
    obtain ⟨key, hkey, h⟩ := Option.bind_eq_some_iff.1 h
    obtain ⟨value, head, h⟩ := Option.bind_eq_some_iff.1 h
    exact ⟨key, value, hkey, head, h⟩
  · rintro ⟨key, value, hkey, head, h⟩
    rw [hkey, head]
    exact h

mutual

/-- **What is written denotes a value** if no surrogate stands alone in it and no number is too large. -/
theorem Form.value?_isSome : ∀ {f : Form}, (∀ ps ∈ f.strings, ∃ cs, Denotes ps cs) →
    (∀ n ∈ f.numerals, n.number?.isSome) → f.value?.isSome
  | .null, _, _ => rfl
  | .bool _, _, _ => rfl
  | .numeral n, _, numbers => by
    rw [Form.value?, Option.isSome_map]
    exact numbers n (List.mem_singleton.2 rfl)
  | .string ps, strings, _ => by
    obtain ⟨cs, h⟩ := strings ps (List.mem_singleton.2 rfl)
    rw [Form.value?, text?_of_denotes h]
    rfl
  | .array items, strings, numbers => by
    rw [Form.value?, Option.isSome_map]
    exact itemValues?_isSome strings numbers
  | .object members, strings, numbers => by
    rw [Form.value?, Option.isSome_map]
    exact memberValues?_isSome strings numbers

theorem itemValues?_isSome : ∀ {items : List Form}, (∀ ps ∈ itemsStrings items, ∃ cs, Denotes ps cs) →
    (∀ n ∈ itemsNumerals items, n.number?.isSome) → (itemValues? items).isSome
  | [], _, _ => rfl
  | v :: vs, strings, numbers => by
    rw [itemsStrings, List.forall_mem_append] at strings
    rw [itemsNumerals, List.forall_mem_append] at numbers
    obtain ⟨value, hvalue⟩ := Option.isSome_iff_exists.1 (Form.value?_isSome strings.1 numbers.1)
    obtain ⟨values, hvalues⟩ := Option.isSome_iff_exists.1 (itemValues?_isSome strings.2 numbers.2)
    rw [itemValues?, hvalue, hvalues]
    rfl

theorem memberValues?_isSome : ∀ {members : List (List Piece × Form)} {before : NameMap Value},
    (∀ ps ∈ membersStrings members, ∃ cs, Denotes ps cs) → (∀ n ∈ membersNumerals members, n.number?.isSome) →
    (memberValues? before members).isSome
  | [], _, _, _ => rfl
  | (k, v) :: ms, before, strings, numbers => by
    rw [membersStrings, List.forall_mem_cons, List.forall_mem_append] at strings
    rw [membersNumerals, List.forall_mem_append] at numbers
    obtain ⟨⟨cs, hkey⟩, inside, others⟩ := strings
    obtain ⟨value, hvalue⟩ := Option.isSome_iff_exists.1 (Form.value?_isSome inside numbers.1)
    rw [memberValues?, text?_of_denotes hkey, hvalue]
    exact memberValues?_isSome others numbers.2

end

mutual

/-- What denotes a value has no surrogate that stands alone and no number that is too large. -/
theorem Form.of_value? : ∀ {f : Form} {w : Value}, f.value? = some w →
    (∀ ps ∈ f.strings, ∃ cs, Denotes ps cs) ∧ ∀ n ∈ f.numerals, n.number?.isSome
  | .null, _, _ => ⟨nofun, nofun⟩
  | .bool _, _, _ => ⟨nofun, nofun⟩
  | .numeral n, _, value => by
    obtain ⟨number, hnumber, -⟩ := Option.map_eq_some_iff.1 value
    refine ⟨nofun, fun m hm => ?_⟩
    rw [List.mem_singleton.1 hm, hnumber]
    rfl
  | .string ps, _, value => by
    obtain ⟨s, hs, -⟩ := Option.map_eq_some_iff.1 value
    refine ⟨fun qs hqs => ⟨s.toList, ?_⟩, nofun⟩
    rw [List.mem_singleton.1 hqs]
    exact text?_eq_some_iff.1 hs
  | .array items, _, value => by
    obtain ⟨values, hvalues, -⟩ := Option.map_eq_some_iff.1 value
    exact items_of_value? hvalues
  | .object members, _, value => by
    obtain ⟨values, hvalues, -⟩ := Option.map_eq_some_iff.1 value
    exact members_of_value? hvalues

theorem items_of_value? : ∀ {items : List Form} {values : List Value}, itemValues? items = some values →
    (∀ ps ∈ itemsStrings items, ∃ cs, Denotes ps cs) ∧ ∀ n ∈ itemsNumerals items, n.number?.isSome
  | [], _, _ => ⟨nofun, nofun⟩
  | v :: vs, _, hvalues => by
    obtain ⟨w, ws, head, tail, -⟩ := itemValues?_cons.1 hvalues
    obtain ⟨strings, numbers⟩ := Form.of_value? head
    obtain ⟨strings', numbers'⟩ := items_of_value? tail
    exact ⟨List.forall_mem_append.2 ⟨strings, strings'⟩, List.forall_mem_append.2 ⟨numbers, numbers'⟩⟩

theorem members_of_value? : ∀ {members : List (List Piece × Form)} {before after : NameMap Value},
    memberValues? before members = some after →
    (∀ ps ∈ membersStrings members, ∃ cs, Denotes ps cs) ∧ ∀ n ∈ membersNumerals members, n.number?.isSome
  | [], _, _, _ => ⟨nofun, nofun⟩
  | (k, v) :: ms, _, _, hvalues => by
    obtain ⟨key, w, hkey, head, tail⟩ := memberValues?_cons.1 hvalues
    obtain ⟨strings, numbers⟩ := Form.of_value? head
    obtain ⟨strings', numbers'⟩ := members_of_value? tail
    exact ⟨List.forall_mem_cons.2 ⟨⟨_, text?_eq_some_iff.1 hkey⟩, List.forall_mem_append.2 ⟨strings, strings'⟩⟩,
      List.forall_mem_append.2 ⟨numbers, numbers'⟩⟩

end

/-! ## Passing over what is written -/

/-- What is left once a value is passed over within these containers. -/
def skipped : List Bracket → List Token → Except Fault (List Token)
  | [], ts => .ok ts
  | b :: stack, ts => skipFrom (b :: stack) .more ts

theorem Form.skipFrom_firstItem (f : Form) (stack : List Bracket) (rest : List Token) :
    skipFrom stack .firstItem (f.tokens ++ rest) = skipFrom stack .value (f.tokens ++ rest) := by
  cases f with
  | array items => cases items <;> rfl
  | object members => cases members <;> rfl
  | _ => rfl

mutual

/-- **Any written value is passed over**, however deep it is and whatever its strings and numbers are. -/
theorem Form.skipFrom_tokens : ∀ (f : Form) (stack : List Bracket) (rest : List Token),
    skipFrom stack .value (f.tokens ++ rest) = skipped stack rest
  | .null, stack, _ => by cases stack <;> rfl
  | .bool _, stack, _ => by cases stack <;> rfl
  | .numeral _, stack, _ => by cases stack <;> rfl
  | .string _, stack, _ => by cases stack <;> rfl
  | .array [], stack, _ => by cases stack <;> rfl
  | .array (v :: vs), stack, rest => by
    show skipFrom (.square :: stack) .firstItem (v.tokens ++ itemTokens vs ++ rest) = _
    rw [List.append_assoc, v.skipFrom_firstItem, v.skipFrom_tokens]
    exact skipFrom_itemTokens vs stack rest
  | .object [], stack, _ => by cases stack <;> rfl
  | .object ((_, v) :: ms), stack, rest => by
    show skipFrom (.curly :: stack) .value (v.tokens ++ memberTokens ms ++ rest) = _
    rw [List.append_assoc, v.skipFrom_tokens]
    exact skipFrom_memberTokens ms stack rest

theorem skipFrom_itemTokens : ∀ (items : List Form) (stack : List Bracket) (rest : List Token),
    skipFrom (.square :: stack) .more (itemTokens items ++ rest) = skipped stack rest
  | [], stack, _ => by cases stack <;> rfl
  | v :: vs, stack, rest => by
    show skipFrom (.square :: stack) .value (v.tokens ++ itemTokens vs ++ rest) = _
    rw [List.append_assoc, v.skipFrom_tokens]
    exact skipFrom_itemTokens vs stack rest

theorem skipFrom_memberTokens : ∀ (members : List (List Piece × Form)) (stack : List Bracket) (rest : List Token),
    skipFrom (.curly :: stack) .more (memberTokens members ++ rest) = skipped stack rest
  | [], stack, _ => by cases stack <;> rfl
  | (_, v) :: ms, stack, rest => by
    show skipFrom (.curly :: stack) .value (v.tokens ++ memberTokens ms ++ rest) = _
    rw [List.append_assoc, v.skipFrom_tokens]
    exact skipFrom_memberTokens ms stack rest

end

theorem Form.skipValue_tokens (f : Form) (rest : List Token) : skipValue (f.tokens ++ rest) = .ok rest :=
  f.skipFrom_tokens [] rest

/-! ## Keeping what is written -/

/-- Reads on from what has been read. -/
def resume (outer : Nat) : Progress → List Token → Result Value
  | .complete v, ts => .ok (v, ts)
  | .pending stack expected, ts => readFrom outer stack expected ts

theorem readFrom_cons {outer : Nat} {stack : List Frame} {expected : Expected} {t : Token} {progress : Progress}
    (h : readToken outer stack expected t = .ok progress) (ts : List Token) :
    readFrom outer stack expected (t :: ts) = resume outer progress ts := by
  rw [readFrom, h]
  cases progress <;> rfl

theorem Form.readFrom_firstItem (f : Form) (outer : Nat) (stack : List Frame) (rest : List Token) :
    readFrom outer stack .firstItem (f.tokens ++ rest) = readFrom outer stack .value (f.tokens ++ rest) := by
  cases f with
  | array items => cases items <;> rfl
  | object members => cases members <;> rfl
  | _ => rfl

section Key

variable {outer : Nat} {stack : List Frame} {ms : NameMap Value} {before key : String} {ps : List Piece}

theorem readFrom_key (hkey : Piece.text? ps = some key) (ts : List Token) :
    readFrom outer (.object ms before :: stack) .key (.string ps :: .colon :: ts)
      = readFrom outer (.object ms key :: stack) .value ts := by
  rw [readFrom, readToken, beginKey, keepString_text hkey]
  rfl

theorem readFrom_firstKey (hkey : Piece.text? ps = some key) (ts : List Token) :
    readFrom outer (.object ms before :: stack) .firstKey (.string ps :: .colon :: ts)
      = readFrom outer (.object ms key :: stack) .value ts := by
  rw [readFrom, readToken, beginKey, keepString_text hkey]
  · rfl
  · nofun

end Key

mutual

/-- **What is written is read** as the value that it denotes, if it is not too deep where it stands. -/
theorem Form.readFrom_tokens : ∀ {f : Form} {v : Value} {outer : Nat} {stack : List Frame}, f.value? = some v →
    outer + stack.length + f.depth ≤ deepest → ∀ rest : List Token,
      readFrom outer stack .value (f.tokens ++ rest) = resume outer (accept v stack) rest
  | .null, _, _, _, value, _, _ => by
    obtain rfl := Option.some.inj value
    exact readFrom_cons rfl _
  | .bool b, _, _, _, value, _, _ => by
    obtain rfl := Option.some.inj value
    exact readFrom_cons rfl _
  | .numeral n, _, _, _, value, _, _ => by
    obtain ⟨number, hnumber, rfl⟩ := Option.map_eq_some_iff.1 value
    refine readFrom_cons ?_ _
    rw [readToken, beginValue, keepNumeral, hnumber]
    rfl
  | .string ps, _, _, _, value, _, _ => by
    obtain ⟨s, hs, rfl⟩ := Option.map_eq_some_iff.1 value
    refine readFrom_cons ?_ _
    rw [readToken, beginValue, keepString_text hs]
    rfl
  | .array items, v, outer, stack, value, shallow, rest => by
    obtain ⟨values, hvalues, rfl⟩ := Option.map_eq_some_iff.1 value
    rw [Form.depth] at shallow
    -- what is open already and what is still to be opened stay within the limit together
    have opens : readToken outer stack .value (.opening .square) = .ok (.pending (.array [] :: stack) .firstItem) :=
      if_pos (by omega)
    match items, hvalues, shallow with
    | [], hvalues, _ =>
      obtain rfl := Option.some.inj hvalues
      show readFrom outer stack .value (.opening .square :: .closing .square :: rest) = _
      rw [readFrom_cons opens]
      exact readFrom_cons rfl _
    | first :: items, hvalues, shallow =>
      obtain ⟨w, ws, hw, hws, rfl⟩ := itemValues?_cons.1 hvalues
      rw [itemsDepth] at shallow
      show readFrom outer stack .value (.opening .square :: (first.tokens ++ itemTokens items ++ rest)) = _
      rw [readFrom_cons opens, resume, List.append_assoc, first.readFrom_firstItem,
        Form.readFrom_tokens hw (by rw [List.length_cons]; omega)]
      exact readFrom_itemTokens hws (by omega) rest
  | .object members, v, outer, stack, value, shallow, rest => by
    obtain ⟨values, hvalues, rfl⟩ := Option.map_eq_some_iff.1 value
    rw [Form.depth] at shallow
    have opens : readToken outer stack .value (.opening .curly) = .ok (.pending (.object [] "" :: stack) .firstKey) :=
      if_pos (by omega)
    match members, hvalues, shallow with
    | [], hvalues, _ =>
      obtain rfl := Option.some.inj hvalues
      show readFrom outer stack .value (.opening .curly :: .closing .curly :: rest) = _
      rw [readFrom_cons opens]
      exact readFrom_cons rfl _
    | (k, first) :: members, hvalues, shallow =>
      obtain ⟨key, w, hkey, hw, hvalues⟩ := memberValues?_cons.1 hvalues
      rw [membersDepth] at shallow
      show readFrom outer stack .value
        (.opening .curly :: .string k :: .colon :: (first.tokens ++ memberTokens members ++ rest)) = _
      rw [readFrom_cons opens, resume, readFrom_firstKey hkey, List.append_assoc,
        Form.readFrom_tokens hw (by rw [List.length_cons]; omega)]
      exact readFrom_memberTokens hvalues (by omega) rest

theorem readFrom_itemTokens : ∀ {items : List Form} {values before : List Value} {outer : Nat} {stack : List Frame},
    itemValues? items = some values → outer + stack.length + 1 + itemsDepth items ≤ deepest → ∀ rest : List Token,
      readFrom outer (.array before :: stack) .more (itemTokens items ++ rest)
        = resume outer (accept (.array (before.reverse ++ values)) stack) rest
  | [], _, before, _, _, hvalues, _, _ => by
    obtain rfl := Option.some.inj hvalues
    rw [List.append_nil]
    exact readFrom_cons rfl _
  | first :: items, values, before, outer, stack, hvalues, shallow, rest => by
    obtain ⟨w, ws, hw, hws, rfl⟩ := itemValues?_cons.1 hvalues
    rw [itemsDepth] at shallow
    show readFrom outer (.array before :: stack) .value (first.tokens ++ itemTokens items ++ rest) = _
    rw [List.append_assoc, Form.readFrom_tokens hw (by rw [List.length_cons]; omega), accept, resume,
      readFrom_itemTokens hws (by omega), List.reverse_cons, List.append_assoc]
    rfl

theorem readFrom_memberTokens : ∀ {members : List (List Piece × Form)} {values before : NameMap Value} {key : String}
    {outer : Nat} {stack : List Frame}, memberValues? before members = some values →
    outer + stack.length + 1 + membersDepth members ≤ deepest → ∀ rest : List Token,
      readFrom outer (.object before key :: stack) .more (memberTokens members ++ rest)
        = resume outer (accept (.object values) stack) rest
  | [], _, _, _, _, _, hvalues, _, _ => by
    obtain rfl := Option.some.inj hvalues
    exact readFrom_cons rfl _
  | (k, first) :: members, values, before, key, outer, stack, hvalues, shallow, rest => by
    obtain ⟨name, w, hkey, hw, hvalues⟩ := memberValues?_cons.1 hvalues
    rw [membersDepth] at shallow
    show readFrom outer (.object before key :: stack) .key
      (.string k :: .colon :: (first.tokens ++ memberTokens members ++ rest)) = _
    rw [readFrom_key hkey, List.append_assoc, Form.readFrom_tokens hw (by rw [List.length_cons]; omega), accept, resume]
    exact readFrom_memberTokens hvalues (by omega) rest

end

theorem Form.readValue_tokens {f : Form} {v : Value} {outer : Nat} (value : f.value? = some v)
    (shallow : outer + f.depth ≤ deepest) (rest : List Token) :
    readValue outer (f.tokens ++ rest) = .ok (v, rest) := by
  have read : readFrom outer [] .value (f.tokens ++ rest) = resume outer (accept v []) rest :=
    Form.readFrom_tokens value shallow rest
  exact read

end ServiceControl.Json
