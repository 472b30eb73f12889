import ServiceControl.Text.Utf16
import ServiceControl.Json.Numeral
/-!
# JSON tokens

A text cut into tokens, once, from left to right.  What a token is worth depends on who takes it: a reader that keeps a
value checks surrogates and number range (`Piece.decode`, `Numeral.number?`), one that passes over a value does not.  So
a string token keeps its pieces and a number its digits, and a token that cannot be completed keeps the fault that each
of the two readers finds in it.  Blanks between tokens leave no trace (`tokens_blank`).
-/
namespace ServiceControl.Json

open Text (isHighSurrogate isLowSurrogate pairPoint)

inductive Bracket
  | square
  | curly
  deriving DecidableEq, Repr, Inhabited

/-- A piece of a string: a character, or a code unit written as `\u` and four digits. -/
inductive Piece
  | char (c : Char)
  | unit (u : Nat)
  deriving DecidableEq, Repr, Inhabited

inductive Token
  | opening (b : Bracket)
  | closing (b : Bracket)
  | comma
  | colon
  | null
  | bool (value : Bool)
  | numeral (n : Numeral)
  | string (pieces : List Piece)
  /-- A string that does not end; `fault` is what stopped it. -/
  | brokenString (pieces : List Piece) (fault : TextFault)
  /-- A word or a number that cannot be completed: the fault of a reader that keeps it, and of one that passes over. -/
  | broken (keeping passing : TextFault)
  /-- A character that begins no token. -/
  | stray
  deriving DecidableEq, Repr, Inhabited

/-! ## Strings -/

/-- The value of a hexadecimal digit of either case. -/
def hexDigit? (c : Char) : Option Nat :=
  if '0' ≤ c ∧ c ≤ '9' then some (c.toNat - '0'.toNat)
  else if 'a' ≤ c ∧ c ≤ 'f' then some (c.toNat - 'a'.toNat + 10)
  else if 'A' ≤ c ∧ c ≤ 'F' then some (c.toNat - 'A'.toNat + 10)
  else none

/-- The value of four hexadecimal digits. -/
def hex4? (a b c d : Char) : Option Nat := do
  return (((← hexDigit? a) * 16 + (← hexDigit? b)) * 16 + (← hexDigit? c)) * 16 + (← hexDigit? d)

/-- The character that a backslash and a letter stand for. -/
def shortEscape? : Char → Option Char
  | '"' => some '"'
  | '\\' => some '\\'
  | '/' => some '/'
  | 'b' => some '\x08'
  | 'f' => some '\x0c'
  | 'n' => some '\n'
  | 'r' => some '\r'
  | 't' => some '\t'
  | _ => none

/-- The number of bytes of a text in UTF-8. -/
def utf8Length (cs : List Char) : Nat := cs.foldr (fun c n => c.utf8Size + n) 0

/-- Cuts off a string after its opening quote.  Four bytes must be left after `\u` before they are looked at. -/
def scanString : List Char → List Piece × Except TextFault (List Char)
  | [] => ([], .error .truncated)
  | '"' :: r => ([], .ok r)
  | ['\\'] => ([], .error .truncated)
  | '\\' :: 'u' :: a :: b :: c :: d :: r =>
    match hex4? a b c d with
    | some u => let (ps, rest) := scanString r; (.unit u :: ps, rest)
    | none => ([], .error .malformed)
  | '\\' :: 'u' :: r => ([], .error (if utf8Length r < 4 then .truncated else .malformed))
  | '\\' :: e :: r =>
    match shortEscape? e with
    | some c => let (ps, rest) := scanString r; (.char c :: ps, rest)
    | none => ([], .error .malformed)
  | c :: r =>
    if c.toNat < 0x20 then ([], .error .malformed)
    else let (ps, rest) := scanString r; (.char c :: ps, rest)

/-- The characters of a string.  Code units of a surrogate pair join; a surrogate without its partner is malformed, unless
the text stopped before the partner could follow. -/
def Piece.decode (ending : Option TextFault) : List Piece → Except TextFault (List Char)
  | [] => match ending with
    | none => .ok []
    | some fault => .error fault
  | .char c :: ps => (c :: ·) <$> Piece.decode ending ps
  | [.unit u] =>
    if isHighSurrogate u then .error (ending.getD .malformed)
    else if isLowSurrogate u then .error .malformed
    else (Char.ofNat u :: ·) <$> Piece.decode ending []
  | .unit u :: .unit v :: ps =>
    if isHighSurrogate u then
      if isLowSurrogate v then (Char.ofNat (pairPoint u v) :: ·) <$> Piece.decode ending ps else .error .malformed
    else if isLowSurrogate u then .error .malformed
    else (Char.ofNat u :: ·) <$> Piece.decode ending (.unit v :: ps)
  | .unit u :: .char c :: ps =>
    if isHighSurrogate u ∨ isLowSurrogate u then .error .malformed
    else (Char.ofNat u :: ·) <$> Piece.decode ending (.char c :: ps)

/-! ## Numbers and words -/

def isDigit (c : Char) : Bool := (Text.digit? c).isSome

/-- Cuts off a row of digits. -/
def scanDigits (cs : List Char) : List Nat × List Char := ((cs.takeWhile isDigit).filterMap Text.digit?, cs.dropWhile isDigit)

/-- A row of one digit at least. -/
def scanDigits1 (cs : List Char) : Except TextFault (List Nat × List Char) :=
  match cs with
  | [] => .error .truncated
  | c :: _ => if isDigit c then .ok (scanDigits cs) else .error .malformed

def scanFraction : List Char → Except TextFault (List Nat × List Char)
  | '.' :: r => scanDigits1 r
  | r => .ok ([], r)

/-- The sign of an exponent. -/
def scanSign : List Char → Bool × List Char
  | '-' :: r => (true, r)
  | '+' :: r => (false, r)
  | r => (false, r)

def scanExponent (cs : List Char) : Except TextFault (Option (Bool × List Nat) × List Char) :=
  match cs with
  | [] => .ok (none, [])
  | e :: r =>
    if e = 'e' ∨ e = 'E' then do
      let (digits, rest) ← scanDigits1 (scanSign r).2
      return (some ((scanSign r).1, digits), rest)
    else .ok (none, e :: r)

/-- The whole part of a number: a zero stands alone. -/
def scanWhole : List Char → Except TextFault (List Nat × List Char)
  | '0' :: c :: r => if isDigit c then .error .malformed else .ok ([0], c :: r)
  | cs => scanDigits1 cs

/-- Cuts off a number after its sign. -/
def scanUnsigned (negative : Bool) (cs : List Char) : Except TextFault (Numeral × List Char) := do
  let (whole, r) ← scanWhole cs
  let (fraction, r) ← scanFraction r
  let (exponent, r) ← scanExponent r
  return (⟨negative, whole, fraction, exponent⟩, r)

/-- Cuts off what is left of a word after its first letter. -/
def scanWord : List Char → List Char → Except TextFault (List Char)
  | [], r => .ok r
  | _ :: _, [] => .error .truncated
  | w :: ws, c :: r => if c = w then scanWord ws r else .error .malformed

/-! ## Tokens -/

/-- The four blanks that JSON knows. -/
def isSpace (c : Char) : Bool := c = ' ' || c = '\t' || c = '\n' || c = '\r'

/-- A word as a token, with the rest of the text; nothing is read after one that is broken. -/
def wordToken (t : Token) : Except TextFault (List Char) → Token × List Char
  | .ok r => (t, r)
  | .error fault => (.broken fault fault, [])

/-- A number as a token.  One who passes over it finds a missing digit malformed even at the end of the text. -/
def numeralToken : Except TextFault (Numeral × List Char) → Token × List Char
  | .ok (n, r) => (.numeral n, r)
  | .error fault => (.broken fault .malformed, [])

def stringToken : List Piece × Except TextFault (List Char) → Token × List Char
  | (ps, .ok r) => (.string ps, r)
  | (ps, .error fault) => (.brokenString ps fault, [])

/-- The token that begins with a character, and the rest of the text. -/
def tokenAt (c : Char) (r : List Char) : Token × List Char :=
  match c with
  | '[' => (.opening .square, r)
  | '{' => (.opening .curly, r)
  | ']' => (.closing .square, r)
  | '}' => (.closing .curly, r)
  | ',' => (.comma, r)
  | ':' => (.colon, r)
  | '"' => stringToken (scanString r)
  | 'n' => wordToken .null (scanWord ['u', 'l', 'l'] r)
  | 't' => wordToken (.bool true) (scanWord ['r', 'u', 'e'] r)
  | 'f' => wordToken (.bool false) (scanWord ['a', 'l', 's', 'e'] r)
  | '-' => numeralToken (scanUnsigned true r)
  | c => if isDigit c then numeralToken (scanUnsigned false (c :: r)) else (.stray, r)

theorem scanString_length {rest : List Char} (cs : List Char) :
    ∀ {ps : List Piece}, scanString cs = (ps, .ok rest) → rest.length < cs.length := by
  fun_induction scanString cs <;> intro qs h <;> simp only [Prod.mk.injEq, reduceCtorEq, and_false] at h
  case case2 => simp_all
  all_goals
    rename_i hs ih
    obtain ⟨-, rfl⟩ := h
    have := ih hs
    simp only [List.length_cons]
    omega

theorem dropWhile_length (p : Char → Bool) (cs : List Char) : (cs.dropWhile p).length ≤ cs.length := by
  induction cs with
  | nil => simp
  | cons c cs ih =>
    rw [List.dropWhile_cons]
    split
    · exact Nat.le_succ_of_le ih
    · exact Nat.le_refl _

theorem scanDigits1_length {cs rest : List Char} {ds : List Nat} (h : scanDigits1 cs = .ok (ds, rest)) :
    rest.length < cs.length := by
  unfold scanDigits1 at h
  split at h
  · cases h
  · rename_i c r
    split at h
    · rename_i hc
      cases h
      rw [List.dropWhile_cons, if_pos hc]
      exact Nat.lt_succ_of_le (dropWhile_length _ _)
    · cases h

theorem scanFraction_length {cs rest : List Char} {ds : List Nat} (h : scanFraction cs = .ok (ds, rest)) :
    rest.length ≤ cs.length := by
  unfold scanFraction at h
  split at h
  · have := scanDigits1_length h
    simp only [List.length_cons]
    omega
  · cases h
    exact Nat.le_refl _

theorem scanSign_length (cs : List Char) : (scanSign cs).2.length ≤ cs.length := by
  unfold scanSign
  split <;> simp

theorem scanExponent_length {cs rest : List Char} {e : Option (Bool × List Nat)} (h : scanExponent cs = .ok (e, rest)) :
    rest.length ≤ cs.length := by
  unfold scanExponent at h
  split at h
  · cases h
    exact Nat.le_refl _
  · split at h
    · rename_i r _
      cases hd : scanDigits1 (scanSign r).2 with
      | error f => rw [hd] at h; cases h
      | ok p =>
        rw [hd] at h
        cases h
        have := scanDigits1_length hd
        have := scanSign_length r
        simp only [List.length_cons]
        omega
    · cases h
      exact Nat.le_refl _

theorem scanWhole_length {cs rest : List Char} {ds : List Nat} (h : scanWhole cs = .ok (ds, rest)) :
    rest.length < cs.length := by
  unfold scanWhole at h
  split at h
  · split at h
    · cases h
    · cases h
      simp
  · exact scanDigits1_length h

theorem scanUnsigned_length {negative : Bool} {cs rest : List Char} {n : Numeral}
    (h : scanUnsigned negative cs = .ok (n, rest)) : rest.length < cs.length := by
  unfold scanUnsigned at h
  cases hw : scanWhole cs with
  | error f => rw [hw] at h; cases h
  | ok w =>
    rw [hw] at h
    cases hf : scanFraction w.2 with
    | error f => simp only [bind, Except.bind, hf] at h; cases h
    | ok f =>
      cases he : scanExponent f.2 with
      | error e => simp only [bind, Except.bind, hf, he] at h; cases h
      | ok e =>
        simp only [bind, Except.bind, hf, he] at h
        cases h
        have := scanWhole_length hw
        have := scanFraction_length hf
        have := scanExponent_length he
        omega

theorem scanWord_length {rest : List Char} : ∀ {ws cs : List Char}, scanWord ws cs = .ok rest → rest.length ≤ cs.length
  | [], cs, h => by cases h; exact Nat.le_refl _
  | _ :: _, [], h => by cases h
  | w :: ws, c :: cs, h => by
    unfold scanWord at h
    split at h
    · have := scanWord_length h
      simp only [List.length_cons]
      omega
    · cases h

theorem wordToken_length {t : Token} {cs : List Char} {x : Except TextFault (List Char)}
    (h : ∀ rest, x = .ok rest → rest.length ≤ cs.length) : (wordToken t x).2.length ≤ cs.length := by
  cases x with
  | ok r => exact h r rfl
  | error f => exact Nat.zero_le _

theorem numeralToken_length {k : Nat} {x : Except TextFault (Numeral × List Char)}
    (h : ∀ n rest, x = .ok (n, rest) → rest.length ≤ k) : (numeralToken x).2.length ≤ k := by
  cases x with
  | ok p => exact h p.1 p.2 rfl
  | error f => exact Nat.zero_le _

/-- What is left after a token is no longer than what followed its first character. -/
theorem tokenAt_length (c : Char) (r : List Char) : (tokenAt c r).2.length ≤ r.length := by
  unfold tokenAt
  split
  case h_7 =>
    unfold stringToken
    split
    · rename_i h
      exact Nat.le_of_lt (scanString_length _ h)
    · exact Nat.zero_le _
  case h_8 => exact wordToken_length fun _ => scanWord_length
  case h_9 => exact wordToken_length fun _ => scanWord_length
  case h_10 => exact wordToken_length fun _ => scanWord_length
  case h_11 => exact numeralToken_length fun _ _ h => Nat.le_of_lt (scanUnsigned_length h)
  case h_12 =>
    split
    · exact numeralToken_length fun _ _ h => Nat.le_of_lt_succ (scanUnsigned_length h)
    · exact Nat.le_refl _
  all_goals exact Nat.le_refl _

/-- The tokens of a text. -/
def tokens : List Char → List Token
  | [] => []
  | c :: r => if isSpace c then tokens r else (tokenAt c r).1 :: tokens (tokenAt c r).2
termination_by cs => cs.length
decreasing_by
  · simp
  · exact Nat.lt_succ_of_le (tokenAt_length c r)

/-- A blank between two tokens leaves no trace. -/
theorem tokens_blank {c : Char} (h : isSpace c = true) (cs : List Char) : tokens (c :: cs) = tokens cs := by
  rw [tokens, if_pos h]

end ServiceControl.Json
