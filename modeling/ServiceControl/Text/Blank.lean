/-!
# Blank characters

The characters of Unicode's White_Space property and the trimming of a text by them.  Main statement: a text trims to
nothing exactly when all of it is blank (`trim_eq_nil_iff`).
-/
namespace ServiceControl.Text

/-- A character of the White_Space property: 25 code points, so neither U+200B nor the separators U+001C to U+001F. -/
def isBlank (c : Char) : Bool :=
  let n := c.toNat
  (9 ≤ n && n ≤ 13) || n == 0x20 || n == 0x85 || n == 0xA0 || n == 0x1680 || (0x2000 ≤ n && n ≤ 0x200A) ||
    n == 0x2028 || n == 0x2029 || n == 0x202F || n == 0x205F || n == 0x3000

/-- The ASCII white space that `Char.isWhitespace` knows is blank. -/
theorem isBlank_of_isWhitespace {c : Char} (h : c.isWhitespace = true) : isBlank c = true := by
  simp only [Char.isWhitespace, Bool.or_eq_true, decide_eq_true_eq] at h
  rcases h with ((h | h) | h) | h <;> subst h <;> decide

/-- A text without the blanks at its two ends. -/
def trim (cs : List Char) : List Char :=
  ((cs.dropWhile isBlank).reverse.dropWhile isBlank).reverse

def isAllBlank (cs : List Char) : Bool := cs.all isBlank

theorem dropWhile_eq_nil_iff {p : Char → Bool} : ∀ {cs : List Char}, cs.dropWhile p = [] ↔ cs.all p = true
  | [] => by simp
  | c :: cs => by
    rw [List.dropWhile_cons]
    by_cases h : p c = true
    · simp [h, @dropWhile_eq_nil_iff p cs]
    · simp [h]

theorem head_dropWhile {p : Char → Bool} : ∀ {cs : List Char} {c : Char} {r : List Char},
    cs.dropWhile p = c :: r → p c = false
  | [], _, _, h => by simp at h
  | a :: as, c, r, h => by
    rw [List.dropWhile_cons] at h
    by_cases hp : p a = true
    · rw [if_pos hp] at h
      exact head_dropWhile h
    · rw [if_neg hp] at h
      cases h
      simpa using hp

/-- **A text trims to nothing exactly when all of it is blank.** -/
theorem trim_eq_nil_iff {cs : List Char} : trim cs = [] ↔ isAllBlank cs = true := by
  rw [trim, List.reverse_eq_nil_iff, dropWhile_eq_nil_iff, List.all_reverse, isAllBlank]
  constructor
  · intro h
    cases hd : cs.dropWhile isBlank with
    | nil => exact dropWhile_eq_nil_iff.1 hd
    | cons c r =>
      rw [hd] at h
      simp [head_dropWhile hd] at h
  · intro h
    rw [dropWhile_eq_nil_iff.2 h]
    rfl

end ServiceControl.Text
