/-!
# Natural numbers in decimal

The reading of a bounded natural number: an optional plus sign and one or more ASCII digits, with any number of leading
zeros, up to a largest value.  `readNat` accepts exactly these texts and says of any other why it is none.
-/
namespace ServiceControl.Text

/-- Why a text is not a decimal natural number within its bound. -/
inductive NatFault
  | empty
  | invalidDigit
  | tooLarge
  deriving DecidableEq, Repr, Inhabited

def NatFault.message : NatFault → String
  | .empty => "cannot parse integer from empty string"
  | .invalidDigit => "invalid digit found in string"
  | .tooLarge => "number too large to fit in target type"

def digit? (c : Char) : Option Nat :=
  if '0' ≤ c ∧ c ≤ '9' then some (c.toNat - '0'.toNat) else none

/-- Appends digits to the number read so far; a character that is no digit is met before the bound is checked. -/
def readDigits (largest : Nat) : Nat → List Char → Except NatFault Nat
  | value, [] => .ok value
  | value, c :: cs =>
    match digit? c with
    | none => .error .invalidDigit
    | some d => if value * 10 + d ≤ largest then readDigits largest (value * 10 + d) cs else .error .tooLarge

/-- Reads a natural number of at most `largest`.  A sign alone is an invalid digit, and so is a minus sign. -/
def readNat (largest : Nat) : List Char → Except NatFault Nat
  | [] => .error .empty
  | ['+'] => .error .invalidDigit
  | '+' :: cs => readDigits largest 0 cs
  | cs => readDigits largest 0 cs

def largestWord64 : Nat := 18446744073709551615

end ServiceControl.Text
