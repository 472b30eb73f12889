import ServiceControl.Proofs.Json.Written
import ServiceControl.Text.Blank
import ServiceControl.Text.Utf16
import Mathlib.Data.List.DropRight
/-!
# Texts, their units and the numbers in them

A text is decoded from its units (`decodeUtf16_encodeUtf16`), and what decodes without a replacement are the units of a
text (`encodeUtf16_decodeUtf16`).  Trimming takes the blanks at both ends (`trim_split`, `trim_spaced`), and a number is
read exactly from a row of digits that may follow a plus sign (`readNat_eq_ok_iff`).
-/
namespace ServiceControl.Text

open Json (DigitRow digitChars)
open Json.Numeral (digitsValue)

/-! ## Units -/

/-- A unit of no surrogate pair. -/
def isLone (u : Nat) : Bool := !isHighSurrogate u && !isLowSurrogate u

theorem decodeUtf16_cons_of_isLone {u : Nat} (h : isLone u = true) (us : List Nat) :
    decodeUtf16 (u :: us) = Char.ofNat u :: decodeUtf16 us := by
  obtain ⟨high, low⟩ := Bool.and_eq_true_iff.1 h
  rw [Bool.not_eq_true'] at high low
  cases us with
  | nil => simp [decodeUtf16, high, low]
  | cons v us => simp [decodeUtf16, high, low]

theorem isLone_of_valid {u : Nat} (h : u.isValidChar) : isLone u = true := by
  simp only [isLone, isHighSurrogate, isLowSurrogate, Bool.and_eq_true, Bool.not_eq_true', Bool.and_eq_false_iff,
    decide_eq_false_iff_not]
  rcases h with h | ⟨h, -⟩ <;> omega

theorem valid_of_isLone {u : Nat} (h : isLone u = true) (word : u < 0x10000) : u.isValidChar := by
  simp only [isLone, isHighSurrogate, isLowSurrogate, Bool.and_eq_true, Bool.not_eq_true', Bool.and_eq_false_iff,
    decide_eq_false_iff_not] at h
  unfold Nat.isValidChar
  omega

theorem toNat_ofNat {n : Nat} (h : n.isValidChar) : (Char.ofNat n).toNat = n := by
  rw [Char.ofNat, dif_pos h]
  rfl

/-- **The first character of a text is decoded from its own units.** -/
theorem decodeUtf16_unitsOf (c : Char) (us : List Nat) : decodeUtf16 (unitsOf c ++ us) = c :: decodeUtf16 us := by
  have valid : c.toNat.isValidChar := c.valid
  unfold unitsOf
  split
  · rw [List.singleton_append, decodeUtf16_cons_of_isLone (isLone_of_valid valid), Char.ofNat_toNat]
  · have top : c.toNat < 0x110000 := by
      rcases valid with h | ⟨-, h⟩ <;> omega
    have high : isHighSurrogate (0xD800 + (c.toNat - 0x10000) / 0x400) = true := by
      simp only [isHighSurrogate, Bool.and_eq_true, decide_eq_true_eq]
      omega
    have low : isLowSurrogate (0xDC00 + (c.toNat - 0x10000) % 0x400) = true := by
      simp only [isLowSurrogate, Bool.and_eq_true, decide_eq_true_eq]
      omega
    have point : pairPoint (0xD800 + (c.toNat - 0x10000) / 0x400) (0xDC00 + (c.toNat - 0x10000) % 0x400) = c.toNat := by
      unfold pairPoint
      omega
    rw [List.cons_append, List.singleton_append, decodeUtf16, high, low, point, Char.ofNat_toNat]
    rfl

/-- **Every text is decoded from its units.** -/
theorem decodeUtf16_encodeUtf16 (cs : List Char) : decodeUtf16 (encodeUtf16 cs) = cs := by
  induction cs with
  | nil => rfl
  | cons c cs ih =>
    show decodeUtf16 (unitsOf c ++ encodeUtf16 cs) = c :: cs
    rw [decodeUtf16_unitsOf, ih]

theorem unitsOf_ofNat {u : Nat} (h : isLone u = true) (word : u < 0x10000) : unitsOf (Char.ofNat u) = [u] := by
  rw [unitsOf, toNat_ofNat (valid_of_isLone h word), if_pos word]

theorem unitsOf_pairPoint {u v : Nat} (high : isHighSurrogate u = true) (low : isLowSurrogate v = true) :
    unitsOf (Char.ofNat (pairPoint u v)) = [u, v] := by
  simp only [isHighSurrogate, isLowSurrogate, Bool.and_eq_true, decide_eq_true_eq] at high low
  have valid : (pairPoint u v).isValidChar := by
    unfold pairPoint Nat.isValidChar
    omega
  have above : ¬ pairPoint u v < 0x10000 := by
    unfold pairPoint
    omega
  have first : 0xD800 + (pairPoint u v - 0x10000) / 0x400 = u := by
    unfold pairPoint
    omega
  have second : 0xDC00 + (pairPoint u v - 0x10000) % 0x400 = v := by
    unfold pairPoint
    omega
  rw [unitsOf, toNat_ofNat valid, if_neg above, first, second]

/-- **Units that decode without a replacement are those of the text.** -/
theorem encodeUtf16_decodeUtf16 {us : List Nat} (words : ∀ u ∈ us, u < 0x10000)
    (whole : replacement ∉ decodeUtf16 us) : encodeUtf16 (decodeUtf16 us) = us := by
  have lone {u : Nat} {cs : List Char}
      (h : replacement ∉ (if (isHighSurrogate u || isLowSurrogate u) = true then replacement else Char.ofNat u) :: cs) :
      isLone u = true := by
    rw [isLone, ← Bool.not_or, Bool.not_eq_true', Bool.eq_false_iff]
    intro surrogate
    rw [if_pos surrogate] at h
    exact h List.mem_cons_self
  induction us using decodeUtf16.induct with
  | case1 => rfl
  | case2 u =>
    have hu := lone whole
    show encodeUtf16 (decodeUtf16 [u]) = [u]
    rw [decodeUtf16_cons_of_isLone hu]
    exact congrArg (· ++ []) (unitsOf_ofNat hu (words u List.mem_cons_self))
  | case3 u v us pair ih =>
    obtain ⟨high, low⟩ := Bool.and_eq_true_iff.1 pair
    rw [decodeUtf16, if_pos pair] at whole ⊢
    have rest := ih (fun w hw => words w (List.mem_cons_of_mem _ (List.mem_cons_of_mem _ hw)))
      fun h => whole (List.mem_cons_of_mem _ h)
    show unitsOf _ ++ encodeUtf16 (decodeUtf16 us) = _
    rw [unitsOf_pairPoint high low, rest]
    rfl
  | case4 u v us pair ih =>
    rw [decodeUtf16, if_neg pair] at whole
    have hu := lone whole
    have rest := ih (fun w hw => words w (List.mem_cons_of_mem _ hw)) fun h => whole (List.mem_cons_of_mem _ h)
    rw [decodeUtf16_cons_of_isLone hu]
    show unitsOf _ ++ encodeUtf16 (decodeUtf16 (v :: us)) = _
    rw [unitsOf_ofNat hu (words u List.mem_cons_self), rest]
    rfl

/-! ## Trimming -/

theorem rdropWhile_append_of_all {p : Char → Bool} {after : List Char} (h : after.all p = true) (cs : List Char) :
    (cs ++ after).rdropWhile p = cs.rdropWhile p := by
  rw [List.rdropWhile, List.reverse_append, List.dropWhile_append_of_pos]
  · rfl
  · exact fun c hc => List.all_eq_true.1 h c (List.mem_reverse.1 hc)

theorem trim_eq_rdropWhile (cs : List Char) : trim cs = (cs.dropWhile isBlank).rdropWhile isBlank := rfl

/-- What trimming leaves lies between blanks. -/
theorem trim_split (cs : List Char) :
    ∃ before after, isAllBlank before = true ∧ isAllBlank after = true ∧ cs = before ++ (trim cs ++ after) := by
  refine ⟨cs.takeWhile isBlank, (cs.dropWhile isBlank).rtakeWhile isBlank, List.all_takeWhile, ?_, ?_⟩
  · exact List.all_eq_true.2 fun c hc => List.mem_rtakeWhile_imp hc
  · rw [trim_eq_rdropWhile, List.rdropWhile_append_rtakeWhile, List.takeWhile_append_dropWhile]

/-- **What lies between blanks is what trimming leaves**, if there is no blank in it. -/
theorem trim_spaced {before cs after : List Char} (hb : isAllBlank before = true) (ha : isAllBlank after = true)
    (solid : ∀ c ∈ cs, isBlank c = false) : trim (before ++ (cs ++ after)) = cs := by
  rw [trim_eq_rdropWhile, List.dropWhile_append_of_pos (List.all_eq_true.1 hb)]
  cases cs with
  | nil =>
    rw [List.nil_append, dropWhile_eq_nil_iff.2 ha]
    rfl
  | cons c cs =>
    have first : ¬ isBlank c = true := Bool.eq_false_iff.1 (solid c List.mem_cons_self)
    rw [List.cons_append, List.dropWhile_cons_of_neg first, ← List.cons_append, rdropWhile_append_of_all ha,
      List.rdropWhile_eq_self_iff]
    exact fun some => Bool.eq_false_iff.1 (solid _ (List.getLast_mem some))

/-! ## Numbers -/

theorem digit?_eq_some_iff {c : Char} {d : Nat} : digit? c = some d ↔ d < 10 ∧ c = d.digitChar := by
  constructor
  · intro h
    unfold digit? at h
    split at h
    · rename_i between
      obtain ⟨low, high⟩ := between
      have low : 48 ≤ c.toNat := low
      have high : c.toNat ≤ 57 := high
      obtain rfl : c.toNat - 48 = d := Option.some.inj h
      refine ⟨by omega, Char.toNat_inj.1 ?_⟩
      rw [Nat.toNat_digitChar_of_lt_ten (by omega)]
      omega
    · cases h
  · rintro ⟨small, rfl⟩
    exact Json.digit?_digitChar small

theorem le_foldl_digits (ds : List Nat) (value : Nat) : value ≤ ds.foldl (fun n d => n * 10 + d) value := by
  induction ds generalizing value with
  | nil => exact Nat.le_refl _
  | cons d ds ih => exact Nat.le_trans (by omega) (ih (value * 10 + d))

theorem readDigits_eq_ok_iff {largest value n : Nat} {cs : List Char} (within : value ≤ largest) :
    readDigits largest value cs = .ok n ↔
      ∃ ds, (∀ d ∈ ds, d < 10) ∧ cs = digitChars ds ∧ ds.foldl (fun n d => n * 10 + d) value = n ∧ n ≤ largest := by
  induction cs generalizing value with
  | nil =>
    rw [readDigits, Except.ok.injEq]
    constructor
    · rintro rfl
      exact ⟨[], nofun, rfl, rfl, within⟩
    · rintro ⟨ds, -, none, rfl, -⟩
      rw [List.map_eq_nil_iff.1 none.symm]
      rfl
  | cons c cs ih =>
    unfold readDigits
    constructor
    · intro h
      split at h
      · cases h
      · rename_i d hd
        obtain ⟨small, rfl⟩ := digit?_eq_some_iff.1 hd
        split at h
        · rename_i fits
          obtain ⟨ds, digits, rfl, value, bound⟩ := (ih fits).1 h
          exact ⟨d :: ds, List.forall_mem_cons.2 ⟨small, digits⟩, rfl, value, bound⟩
        · cases h
    · rintro ⟨ds, digits, spelled, rfl, bound⟩
      cases ds with
      | nil => cases spelled
      | cons d ds =>
        obtain ⟨rfl, rfl⟩ := List.cons_eq_cons.1 spelled
        obtain ⟨small, digits⟩ := List.forall_mem_cons.1 digits
        -- what is read so far is never more than what is read in the end
        have fits : value * 10 + d ≤ largest := Nat.le_trans (le_foldl_digits ds _) bound
        rw [digit?_eq_some_iff.2 ⟨small, rfl⟩]
        dsimp only
        rw [if_pos fits, ih fits]
        exact ⟨ds, digits, rfl, rfl, bound⟩

/-- The sign that a number may have before it. -/
def Signed (sign : List Char) : Prop := sign = [] ∨ sign = ['+']

/-- **A number is read exactly from a row of digits that may follow a plus sign**, if it is within the bound. -/
theorem readNat_eq_ok_iff {largest n : Nat} {cs : List Char} :
    readNat largest cs = .ok n ↔
      ∃ sign ds, Signed sign ∧ DigitRow ds ∧ cs = sign ++ digitChars ds ∧ digitsValue ds = n ∧ n ≤ largest := by
  have digits_iff {cs : List Char} : readDigits largest 0 cs = .ok n ↔ _ := readDigits_eq_ok_iff (Nat.zero_le largest)
  constructor
  · intro h
    unfold readNat at h
    split at h
    · cases h
    · cases h
    · rename_i alone
      obtain ⟨ds, digits, rfl, value, bound⟩ := digits_iff.1 h
      refine ⟨['+'], ds, .inr rfl, ⟨?_, digits⟩, rfl, value, bound⟩
      rintro rfl
      exact alone rfl
    · rename_i empty _ _
      obtain ⟨ds, digits, rfl, value, bound⟩ := digits_iff.1 h
      refine ⟨[], ds, .inl rfl, ⟨?_, digits⟩, rfl, value, bound⟩
      rintro rfl
      exact empty rfl
  · rintro ⟨sign, ds, signed, ⟨some, digits⟩, rfl, value, bound⟩
    have hread := digits_iff.2 ⟨ds, digits, rfl, value, bound⟩
    cases ds with
    | nil => exact absurd rfl some
    | cons d ds =>
      rcases signed with rfl | rfl
      · have unsigned : d.digitChar ≠ '+' := by
          intro plus
          have hplus := digit?_eq_some_iff.2 ⟨digits d List.mem_cons_self, plus.symm⟩
          cases hplus
        rw [List.nil_append, ← hread, digitChars, List.map_cons, readNat]
        · exact List.cons_ne_nil _ _
        · exact fun plus => unsigned (List.cons_eq_cons.1 plus).1
        · exact fun _ plus => unsigned (List.cons_eq_cons.1 plus).1
      · exact hread

end ServiceControl.Text
