import ServiceControl.Text.Natural
import ServiceControl.Json.Value
/-!
# JSON numerals

The written form of a number and the number that it denotes.  A numeral without fraction and exponent is an integer as
long as its value fits a signed or an unsigned 64-bit word.  Every other numeral is a double, which is computed from its
leading digits: as many as fit a 64-bit word, scaled by a power of ten.  Main statement: a numeral denotes a number
unless it is too large for a double.
-/
namespace ServiceControl.Json

open Text (largestWord64)

/-- Why a text is not JSON: it ends too early, or a character stands where it may not. -/
inductive TextFault
  | truncated
  | malformed
  deriving DecidableEq, Repr, Inhabited

/-- A written number, digit by digit. -/
structure Numeral where
  negative : Bool
  /-- One digit at least, and no zero before others. -/
  whole : List Nat
  fraction : List Nat
  /-- The sign of the exponent, and its digits. -/
  exponent : Option (Bool × List Nat)
  deriving DecidableEq, Repr, Inhabited

/-- The leading digits of a numeral, and how many of the digits taken or passed over count as powers of ten. -/
structure Leading where
  significand : Nat
  exponent : Int
  deriving DecidableEq, Repr, Inhabited

namespace Leading

/-- The significand with one more digit, unless it would outgrow a word. -/
def append? (significand digit : Nat) : Option Nat :=
  let longer := significand * 10 + digit
  if longer ≤ largestWord64 then some longer else none

/-- Takes digits of the whole part; once one does not fit, it and those after it only raise the exponent. -/
def takeWhole : Nat → List Nat → Leading
  | significand, [] => ⟨significand, 0⟩
  | significand, d :: ds =>
    match append? significand d with
    | some longer => takeWhole longer ds
    | none => ⟨significand, (d :: ds).length⟩

/-- Takes digits of the fraction; each lowers the exponent, and from the first that does not fit all are dropped. -/
def takeFraction : Leading → List Nat → Leading
  | l, [] => l
  | l, d :: ds =>
    match append? l.significand d with
    | some longer => takeFraction ⟨longer, l.exponent - 1⟩ ds
    | none => l

end Leading

/-- The largest magnitude of a written exponent. -/
def largestExponent : Nat := 2147483647

/-- The power of ten of a written exponent, held at the bound of a 32-bit word when added to another. -/
def scaleBy (exponent : Int) (negative : Bool) (amount : Nat) : Int :=
  let sum := if negative then exponent - amount else exponent + amount
  max (-2147483648) (min 2147483647 sum)

/-- The double of a significand and a power of ten: one multiplication or division for a power within 10^308, and
repeated division by 10^308 before that for a smaller one. -/
def scale (significand : Nat) (exponent : Int) : Option Float :=
  if 0 ≤ exponent then
    if exponent ≤ 308 then
      let x := significand.toUInt64.toFloat * Float.ofScientific 1 false exponent.toNat
      if x.isInf then none else some x
    else if significand = 0 then some 0.0
    else none
  else some (down (exponent.natAbs / 308 + 1) significand.toUInt64.toFloat exponent.natAbs)
where
  /-- Divides by 10^`amount`, stopping early at zero. -/
  down : Nat → Float → Nat → Float
    | 0, x, _ => x
    | fuel + 1, x, amount =>
      if amount ≤ 308 then x / Float.ofScientific 1 false amount
      else if x == 0.0 then x
      else down fuel (x / 1e308) (amount - 308)

namespace Numeral

/-- The value of a row of digits. -/
def digitsValue (ds : List Nat) : Nat := ds.foldl (fun n d => n * 10 + d) 0

def signed (negative : Bool) (x : Float) : Float := if negative then -x else x

/-- The double that a numeral denotes, or none for one that is too large. -/
def double? (n : Numeral) : Option Float :=
  let leading := (Leading.takeWhole 0 n.whole).takeFraction n.fraction
  match n.exponent with
  | none => (scale leading.significand leading.exponent).map (signed n.negative)
  | some (down, ds) =>
    if largestExponent < digitsValue ds then
      if leading.significand = 0 ∨ down then some (signed n.negative 0.0) else none
    else (scale leading.significand (scaleBy leading.exponent down (digitsValue ds))).map (signed n.negative)

/-- The integer that a numeral denotes: one without fraction and exponent that fits a word, and not negative zero. -/
def integer? (n : Numeral) : Option Int :=
  if n.fraction = [] ∧ n.exponent = none then
    let magnitude := digitsValue n.whole
    if n.negative then if 0 < magnitude ∧ magnitude ≤ Nat.pow 2 63 then some (-magnitude) else none
    else if magnitude ≤ largestWord64 then some magnitude
    else none
  else none

/-- The number that a numeral denotes; none for one that is too large for a double. -/
def number? (n : Numeral) : Option Number :=
  match n.integer? with
  | some i => some (.integer i)
  | none => n.double?.map .float

/-- **An integer within 64 bits is never rounded.** -/
theorem number?_of_integer {n : Numeral} {i : Int} (h : n.integer? = some i) : n.number? = some (.integer i) := by
  simp [number?, h]

end Numeral

end ServiceControl.Json
