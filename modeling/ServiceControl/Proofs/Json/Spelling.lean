import ServiceControl.Proofs.Json.Forms
import Mathlib.Tactic.IntervalCases
/-!
# Texts of written values

How tokens are spelled as JSON has it: a character of a string as itself, as a letter after a backslash or as four
hexadecimal digits, a number with or without a fraction and an exponent, and any blanks around a token.  Main statement:
whatever text spells a written value, its tokens are those of the value (`Form.tokens_of_spelled`).
-/
namespace ServiceControl.Json

/-! ## Strings -/

/-- How a piece of a string is spelled. -/
inductive Piece.Spelled : Piece → List Char → Prop
  | plain {c : Char} (printable : 0x20 ≤ c.toNat) (quote : c ≠ '"') (backslash : c ≠ '\\') : Spelled (.char c) [c]
  | short {e c : Char} (escape : shortEscape? e = some c) : Spelled (.char c) ['\\', e]
  | long {a b c d : Char} {u : Nat} (digits : hex4? a b c d = some u) : Spelled (.unit u) ['\\', 'u', a, b, c, d]

/-- How the pieces of a string are spelled, without its quotes. -/
inductive PiecesSpelled : List Piece → List Char → Prop
  | nil : PiecesSpelled [] []
  | cons {p : Piece} {ps : List Piece} {cs rest : List Char} (head : p.Spelled cs) (tail : PiecesSpelled ps rest) :
      PiecesSpelled (p :: ps) (cs ++ rest)

/-- Characters that need no escape are spelled as themselves. -/
theorem piecesSpelled_plain : ∀ cs : List Char, (∀ c ∈ cs, 0x20 ≤ c.toNat ∧ c ≠ '"' ∧ c ≠ '\\') →
    PiecesSpelled (cs.map .char) cs
  | [], _ => .nil
  | c :: cs, plain => by
    obtain ⟨⟨printable, quote, backslash⟩, tail⟩ := List.forall_mem_cons.1 plain
    exact .cons (.plain printable quote backslash) (piecesSpelled_plain cs tail)

theorem scanString_piece {p : Piece} {cs : List Char} (h : p.Spelled cs) (rest : List Char) :
    scanString (cs ++ rest) = (p :: (scanString rest).1, (scanString rest).2) := by
  cases h with
  | @plain c printable quote backslash =>
    rw [List.singleton_append, scanString, if_neg (Nat.not_lt.2 printable)]
    all_goals
      intros
      contradiction
  | @short e c escape =>
    have letter : e ≠ 'u' := by
      rintro rfl
      cases escape
    show scanString ('\\' :: e :: rest) = _
    rw [scanString, escape]
    · exact fun _ _ _ _ _ h => absurd h letter
    · exact letter
  | @long a b c d u digits =>
    show scanString ('\\' :: 'u' :: a :: b :: c :: d :: rest) = _
    rw [scanString, digits]

theorem scanString_spelled {ps : List Piece} {cs : List Char} (h : PiecesSpelled ps cs) (rest : List Char) :
    scanString (cs ++ '"' :: rest) = (ps, .ok rest) := by
  induction h with
  | nil => rfl
  | cons head tail ih => rw [List.append_assoc, scanString_piece head, ih]

/-! ## Numbers -/

/-- A row of decimal digits, one at least. -/
def DigitRow (ds : List Nat) : Prop := ds ≠ [] ∧ ∀ d ∈ ds, d < 10

def digitChars (ds : List Nat) : List Char := ds.map Nat.digitChar

/-- How a fraction is spelled: it has a digit at least, or it is not there. -/
inductive FractionSpelled : List Nat → List Char → Prop
  | absent : FractionSpelled [] []
  | present {ds : List Nat} (row : DigitRow ds) : FractionSpelled ds ('.' :: digitChars ds)

/-- How the sign of an exponent is spelled. -/
inductive SignSpelled : Bool → List Char → Prop
  | bare : SignSpelled false []
  | plus : SignSpelled false ['+']
  | minus : SignSpelled true ['-']

inductive ExponentSpelled : Option (Bool × List Nat) → List Char → Prop
  | absent : ExponentSpelled none []
  | present {e : Char} {down : Bool} {sign : List Char} {ds : List Nat} (letter : e = 'e' ∨ e = 'E')
      (signed : SignSpelled down sign) (row : DigitRow ds) :
      ExponentSpelled (some (down, ds)) (e :: (sign ++ digitChars ds))

/-- How a number is spelled; a zero before the point stands alone there. -/
inductive Numeral.Spelled : Numeral → List Char → Prop
  | mk {n : Numeral} {fraction exponent : List Char} (whole : DigitRow n.whole)
      (zero : n.whole.head? = some 0 → n.whole = [0]) (hfraction : FractionSpelled n.fraction fraction)
      (hexponent : ExponentSpelled n.exponent exponent) :
      Spelled n ((if n.negative then ['-'] else []) ++ (digitChars n.whole ++ (fraction ++ exponent)))

/-- No character follows that a number goes on with. -/
def Ends (cs : List Char) : Prop := ∀ c ∈ cs.head?, isDigit c = false ∧ c ≠ '.' ∧ c ≠ 'e' ∧ c ≠ 'E'

theorem space_ends {c : Char} (h : isSpace c = true) : isDigit c = false ∧ c ≠ '.' ∧ c ≠ 'e' ∧ c ≠ 'E' := by
  simp only [isSpace, Bool.or_eq_true, decide_eq_true_eq] at h
  rcases h with ((rfl | rfl) | rfl) | rfl <;> decide

theorem digit?_digitChar {d : Nat} (h : d < 10) : Text.digit? d.digitChar = some d := by
  interval_cases d <;> rfl

theorem isDigit_digitChar {d : Nat} (h : d < 10) : isDigit d.digitChar = true := by
  rw [isDigit, digit?_digitChar h]
  rfl

theorem scanDigits_spelled {ds : List Nat} {rest : List Char} (digits : ∀ d ∈ ds, d < 10)
    (ends : ∀ c ∈ rest.head?, isDigit c = false) : scanDigits (digitChars ds ++ rest) = (ds, rest) := by
  unfold scanDigits digitChars
  induction ds with
  | nil =>
    cases rest with
    | nil => rfl
    | cons c rest =>
      have other : ¬ isDigit c = true := Bool.eq_false_iff.1 (ends c rfl)
      rw [List.map_nil, List.nil_append, List.takeWhile_cons_of_neg other, List.dropWhile_cons_of_neg other]
      rfl
  | cons d ds ih =>
    have hd : d < 10 := digits d List.mem_cons_self
    have tail := ih fun e he => digits e (List.mem_cons_of_mem d he)
    rw [Prod.mk.injEq] at tail
    rw [List.map_cons, List.cons_append, List.takeWhile_cons_of_pos (isDigit_digitChar hd),
      List.dropWhile_cons_of_pos (isDigit_digitChar hd), List.filterMap_cons_some (digit?_digitChar hd), tail.1, tail.2]

theorem scanDigits1_spelled {ds : List Nat} {rest : List Char} (row : DigitRow ds)
    (ends : ∀ c ∈ rest.head?, isDigit c = false) : scanDigits1 (digitChars ds ++ rest) = .ok (ds, rest) := by
  obtain ⟨some, digits⟩ := row
  have scanned := scanDigits_spelled digits ends
  cases ds with
  | nil => exact absurd rfl some
  | cons d ds =>
    show scanDigits1 (d.digitChar :: (digitChars ds ++ rest)) = _
    rw [scanDigits1, if_pos (isDigit_digitChar (digits d List.mem_cons_self))]
    exact congrArg Except.ok scanned

theorem scanFraction_spelled {ds : List Nat} {cs rest : List Char} (h : FractionSpelled ds cs)
    (ends : ∀ c ∈ rest.head?, isDigit c = false ∧ c ≠ '.') : scanFraction (cs ++ rest) = .ok (ds, rest) := by
  cases h with
  | absent =>
    rw [List.nil_append, scanFraction]
    rintro r rfl
    exact (ends '.' rfl).2 rfl
  | present row => exact scanDigits1_spelled row fun c hc => (ends c hc).1

theorem scanSign_spelled {down : Bool} {sign cs : List Char} (h : SignSpelled down sign)
    (digit : ∃ c ∈ cs.head?, isDigit c = true) : scanSign (sign ++ cs) = (down, cs) := by
  cases h with
  | plus => rfl
  | minus => rfl
  | bare =>
    obtain ⟨c, hc, isDigit⟩ := digit
    rw [List.nil_append, scanSign]
    · rintro r rfl
      cases hc
      cases isDigit
    · rintro r rfl
      cases hc
      cases isDigit

theorem DigitRow.head {ds : List Nat} (row : DigitRow ds) (rest : List Char) :
    ∃ c ∈ (digitChars ds ++ rest).head?, isDigit c = true := by
  obtain ⟨some, digits⟩ := row
  cases ds with
  | nil => exact absurd rfl some
  | cons d ds => exact ⟨d.digitChar, rfl, isDigit_digitChar (digits d List.mem_cons_self)⟩

theorem scanExponent_spelled {e : Option (Bool × List Nat)} {cs rest : List Char} (h : ExponentSpelled e cs)
    (ends : Ends rest) : scanExponent (cs ++ rest) = .ok (e, rest) := by
  cases h with
  | absent =>
    cases rest with
    | nil => rfl
    | cons c rest =>
      obtain ⟨-, -, lower, upper⟩ := ends c rfl
      exact if_neg (not_or.2 ⟨lower, upper⟩)
  | @present e down sign ds letter signed row =>
    have scanned := scanDigits1_spelled row fun c hc => (ends c hc).1
    show scanExponent (e :: (sign ++ digitChars ds ++ rest)) = _
    rw [List.append_assoc, scanExponent, if_pos letter, scanSign_spelled signed (row.head rest), scanned]
    rfl

theorem ExponentSpelled.ends {e : Option (Bool × List Nat)} {cs rest : List Char} (h : ExponentSpelled e cs)
    (ends : Ends rest) : ∀ c ∈ (cs ++ rest).head?, isDigit c = false ∧ c ≠ '.' := by
  cases h with
  | absent => exact fun c hc => ⟨(ends c hc).1, (ends c hc).2.1⟩
  | present letter signed row =>
    intro c hc
    cases hc
    rcases letter with rfl | rfl <;> decide

theorem FractionSpelled.ends {ds : List Nat} {cs rest : List Char} (h : FractionSpelled ds cs)
    (ends : ∀ c ∈ rest.head?, isDigit c = false ∧ c ≠ '.') : ∀ c ∈ (cs ++ rest).head?, isDigit c = false := by
  cases h with
  | absent => exact fun c hc => (ends c hc).1
  | present row =>
    intro c hc
    cases hc
    rfl

theorem scanWhole_spelled {ds : List Nat} {rest : List Char} (row : DigitRow ds) (zero : ds.head? = some 0 → ds = [0])
    (ends : ∀ c ∈ rest.head?, isDigit c = false) : scanWhole (digitChars ds ++ rest) = .ok (ds, rest) := by
  have scanned := scanDigits1_spelled row ends
  match ds, row with
  | [], row => exact absurd rfl row.1
  | d :: ds, row =>
    by_cases hd : d = 0
    · obtain rfl : ds = [] := (List.cons.inj (zero (congrArg some hd))).2
      subst hd
      cases rest with
      | nil => rfl
      | cons c rest => exact if_neg (Bool.eq_false_iff.1 (ends c rfl))
    · have other : d.digitChar ≠ '0' := by
        have := row.2 d List.mem_cons_self
        interval_cases d <;> first | contradiction | decide
      show scanWhole (d.digitChar :: (digitChars ds ++ rest)) = _
      rw [scanWhole]
      · exact scanned
      · exact fun c r h => other (List.cons.inj h).1

theorem Numeral.scanUnsigned_spelled {n : Numeral} {fraction exponent rest : List Char} (whole : DigitRow n.whole)
    (zero : n.whole.head? = some 0 → n.whole = [0]) (hfraction : FractionSpelled n.fraction fraction)
    (hexponent : ExponentSpelled n.exponent exponent) (ends : Ends rest) :
    scanUnsigned n.negative (digitChars n.whole ++ (fraction ++ exponent) ++ rest) = .ok (n, rest) := by
  have afterFraction := hexponent.ends ends
  rw [List.append_assoc, List.append_assoc, scanUnsigned, scanWhole_spelled whole zero (hfraction.ends afterFraction)]
  show (scanFraction (fraction ++ (exponent ++ rest)) >>= _) = _
  rw [scanFraction_spelled hfraction afterFraction]
  show (scanExponent (exponent ++ rest) >>= _) = _
  rw [scanExponent_spelled hexponent ends]
  rfl

theorem tokenAt_digit {c : Char} (h : isDigit c = true) (r : List Char) :
    tokenAt c r = numeralToken (scanUnsigned false (c :: r)) := by
  rw [tokenAt, if_pos h]
  all_goals
    rintro rfl
    cases h

theorem Numeral.Spelled.tokenAt {n : Numeral} {cs rest : List Char} (h : n.Spelled cs) (ends : Ends rest) :
    ∃ c r, cs ++ rest = c :: r ∧ isSpace c = false ∧ tokenAt c r = (.numeral n, rest) := by
  obtain ⟨whole, zero, hfraction, hexponent⟩ := h
  rename_i fraction exponent
  have scanned := Numeral.scanUnsigned_spelled whole zero hfraction hexponent ends
  cases hn : n.negative with
  | true =>
    rw [hn] at scanned
    refine ⟨'-', _, rfl, rfl, ?_⟩
    show numeralToken (scanUnsigned true (digitChars n.whole ++ (fraction ++ exponent) ++ rest)) = _
    rw [scanned, numeralToken]
  | false =>
    obtain ⟨c, hc, digit⟩ := whole.head (fraction ++ exponent ++ rest)
    obtain ⟨r, hr⟩ : ∃ r, digitChars n.whole ++ (fraction ++ exponent) ++ rest = c :: r := by
      rw [List.append_assoc]
      exact List.head?_eq_some_iff.1 hc
    refine ⟨c, r, hr, ?_, ?_⟩
    · refine Bool.eq_false_iff.2 fun space => ?_
      rw [(space_ends space).1] at digit
      cases digit
    · rw [tokenAt_digit digit, ← hr, ← hn, scanned, numeralToken]

/-! ## Texts -/

/-- How a token is spelled. -/
inductive Token.Spelled : Token → List Char → Prop
  | openSquare : Spelled (.opening .square) ['[']
  | openCurly : Spelled (.opening .curly) ['\x7b']
  | closeSquare : Spelled (.closing .square) [']']
  | closeCurly : Spelled (.closing .curly) ['\x7d']
  | comma : Spelled .comma [',']
  | colon : Spelled .colon [':']
  | null : Spelled .null ['n', 'u', 'l', 'l']
  | true : Spelled (.bool true) ['t', 'r', 'u', 'e']
  | false : Spelled (.bool false) ['f', 'a', 'l', 's', 'e']
  | numeral {n : Numeral} {cs : List Char} (h : n.Spelled cs) : Spelled (.numeral n) cs
  | string {ps : List Piece} {cs : List Char} (h : PiecesSpelled ps cs) : Spelled (.string ps) ('"' :: (cs ++ ['"']))

/-- **How tokens are spelled one after another**, with blanks anywhere between them. -/
inductive Spells : List Token → List Char → Prop
  | nil : Spells [] []
  | blank {c : Char} {ts : List Token} {cs : List Char} (space : isSpace c = true) (rest : Spells ts cs) :
      Spells ts (c :: cs)
  | token {t : Token} {ts : List Token} {cs rest : List Char} (head : t.Spelled cs) (tail : Spells ts rest) :
      Spells (t :: ts) (cs ++ rest)

/-- A text that holds one written value. -/
def Form.Spelled (f : Form) (cs : List Char) : Prop := Spells f.tokens cs

/-- The tokens end here, or a comma or the end of a container follows. -/
def Delimited : List Token → Prop
  | [] | .comma :: _ | .closing _ :: _ => True
  | _ => False

/-- What follows each number tells where it ends. -/
def Separate : List Token → Prop
  | [] => True
  | .numeral _ :: ts => Delimited ts ∧ Separate ts
  | _ :: ts => Separate ts

mutual

theorem Form.separate : ∀ (f : Form) {rest : List Token}, Delimited rest → Separate rest → Separate (f.tokens ++ rest)
  | .null, _, _, separate => separate
  | .bool _, _, _, separate => separate
  | .numeral _, _, delimited, separate => ⟨delimited, separate⟩
  | .string _, _, _, separate => separate
  | .array [], _, _, separate => separate
  | .array (v :: vs), rest, _, separate => by
    show Separate (v.tokens ++ itemTokens vs ++ rest)
    rw [List.append_assoc]
    exact v.separate (by cases vs <;> trivial) (itemTokens_separate vs separate)
  | .object [], _, _, separate => separate
  | .object ((_, v) :: ms), rest, _, separate => by
    show Separate (v.tokens ++ memberTokens ms ++ rest)
    rw [List.append_assoc]
    exact v.separate (by rcases ms with _ | ⟨⟨_, _⟩, _⟩ <;> trivial) (memberTokens_separate ms separate)

theorem itemTokens_separate : ∀ (items : List Form) {rest : List Token}, Separate rest →
    Separate (itemTokens items ++ rest)
  | [], _, separate => separate
  | v :: vs, rest, separate => by
    show Separate (v.tokens ++ itemTokens vs ++ rest)
    rw [List.append_assoc]
    exact v.separate (by cases vs <;> trivial) (itemTokens_separate vs separate)

theorem memberTokens_separate : ∀ (members : List (List Piece × Form)) {rest : List Token}, Separate rest →
    Separate (memberTokens members ++ rest)
  | [], _, separate => separate
  | (_, v) :: ms, rest, separate => by
    show Separate (v.tokens ++ memberTokens ms ++ rest)
    rw [List.append_assoc]
    exact v.separate (by rcases ms with _ | ⟨⟨_, _⟩, _⟩ <;> trivial) (memberTokens_separate ms separate)

end

/-- Where tokens are delimited, so is their text. -/
theorem Spells.ends {ts : List Token} {cs : List Char} (h : Spells ts cs) (delimited : Delimited ts) : Ends cs := by
  cases h with
  | nil => exact nofun
  | blank space rest =>
    rintro d ⟨⟩
    exact space_ends space
  | token head tail =>
    cases head
    all_goals first
      | exact absurd delimited id
      | (rintro d ⟨⟩; decide)

theorem tokens_cons {c : Char} {r rest : List Char} {t : Token} (space : isSpace c = false)
    (h : tokenAt c r = (t, rest)) : tokens (c :: r) = t :: tokens rest := by
  rw [tokens, if_neg (Bool.eq_false_iff.1 space), h]

/-- **The tokens of a text are those that it spells.** -/
theorem tokens_of_spells {ts : List Token} {cs : List Char} (h : Spells ts cs) (separate : Separate ts) :
    tokens cs = ts := by
  induction h with
  | nil => rw [tokens]
  | blank space rest ih => rw [tokens_blank space, ih separate]
  | @token t ts cs rest head tail ih =>
    cases head with
    | numeral spelled =>
      -- only a number needs what follows it to tell where it ends
      obtain ⟨c, r, hcs, space, at_c⟩ := spelled.tokenAt (tail.ends separate.1)
      rw [hcs, tokens_cons space at_c, ih separate.2]
    | @string ps cs spelled =>
      have scanned := scanString_spelled spelled rest
      have at_quote : tokenAt '"' (cs ++ '"' :: rest) = (.string ps, rest) := by
        show stringToken (scanString (cs ++ '"' :: rest)) = _
        rw [scanned, stringToken]
      rw [List.cons_append, List.append_assoc, List.singleton_append, tokens_cons rfl at_quote, ih separate]
    | _ =>
      refine (tokens_cons rfl rfl).trans ?_
      exact congrArg _ (ih separate)

/-- **A text that spells a written value has the tokens of that value.** -/
theorem Form.tokens_of_spelled {f : Form} {cs : List Char} (h : f.Spelled cs) : Json.tokens cs = f.tokens := by
  refine tokens_of_spells h ?_
  rw [← List.append_nil f.tokens]
  exact f.separate trivial trivial

end ServiceControl.Json
