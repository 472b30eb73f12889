/-!
# The shortest decimal of a double

A finite double is m · 2^q, and the reals that round to it form an interval around it.  Of the decimals in that interval
`shortest` gives one with the fewest digits, and of those the nearest to the double.
-/
namespace ServiceControl.Decimal

/-- A positive double as `significand` · 2^`exponent`, with the width of the gap below it. -/
structure Binary where
  significand : Nat
  exponent : Int
  /-- The double is a power of two above the subnormals: the gap below it is half as wide as the one above. -/
  narrowBelow : Bool
  deriving Repr

/-- The parts of a finite double without its sign. -/
def Binary.ofFloat (x : Float) : Binary :=
  let bits : Nat := x.toBits.toNat % Nat.pow 2 63
  let biased : Nat := bits / Nat.pow 2 52
  let fraction : Nat := bits % Nat.pow 2 52
  if biased = 0 then ⟨fraction, -1074, false⟩
  else ⟨Nat.pow 2 52 + fraction, (biased : Int) - 1075, fraction = 0 && 1 < biased⟩

/-- A decimal number `digits` · 10^`exponent`. -/
structure Scaled where
  digits : Nat
  exponent : Int
  deriving Repr, DecidableEq, Inhabited

/-- The ends of the interval that rounds to the double, and the double itself, each as a fraction over one denominator.
All are counted in quarters of the unit in the last place. -/
structure Interval where
  low : Nat
  value : Nat
  high : Nat
  denominator : Nat
  /-- Both ends round to the double too, for its significand is even. -/
  closed : Bool

def Interval.ofBinary (b : Binary) : Interval :=
  let up := Nat.pow 2 (b.exponent - 2).toNat
  { low := (4 * b.significand - (if b.narrowBelow then 1 else 2)) * up
    value := 4 * b.significand * up
    high := (4 * b.significand + 2) * up
    denominator := Nat.pow 2 (2 - b.exponent).toNat
    closed := b.significand % 2 = 0 }

/-- The fraction `n` over the interval's denominator, and the decimal `d`, brought to one denominator. -/
def Interval.compare (i : Interval) (n : Nat) (d : Scaled) : Ordering :=
  Ord.compare (n * Nat.pow 10 (-d.exponent).toNat) (d.digits * Nat.pow 10 d.exponent.toNat * i.denominator)

def Interval.contains (i : Interval) (d : Scaled) : Bool :=
  if i.closed then i.compare i.low d != .gt && i.compare i.high d != .lt
  else i.compare i.low d == .lt && i.compare i.high d == .gt

/-- The largest `n` with 10^`n` not above the double: the place of its first digit. -/
def Interval.leadingPlace (i : Interval) : Int :=
  let estimate : Int := (toString (i.value / i.denominator)).length - 1
  if i.denominator ≤ i.value then estimate
  else
    -- below one: the number of zeros is that by which the reciprocal, rounded up, is longer than one digit
    -((toString ((i.denominator + i.value - 1) / i.value - 1)).length : Int)

/-- The decimals next to the double on the grid of multiples of 10^`k`, the nearer one first; of two equally near ones
the even one. -/
def Interval.neighbours (i : Interval) (k : Int) : List Scaled :=
  let scaled := i.value * Nat.pow 10 (-k).toNat
  let unit := i.denominator * Nat.pow 10 k.toNat
  let below := scaled / unit
  let rest := scaled % unit
  let down : Scaled := ⟨below, k⟩
  let up : Scaled := ⟨below + 1, k⟩
  if rest * 2 < unit || (rest * 2 == unit && below % 2 == 0) then [down, up] else [up, down]

/-- The first grid, from the coarsest, on which a neighbour of the double rounds to it. -/
def Interval.search (i : Interval) : Nat → Int → Scaled
  | 0, k => ((i.neighbours k).headD ⟨0, 0⟩)
  | fuel + 1, k =>
    match (i.neighbours k).find? fun d => d.digits ≠ 0 && i.contains d with
    | some d => d
    | none => i.search fuel (k - 1)

/-- Drops the zeros at the end of the digits. -/
def Scaled.normalize (d : Scaled) : Scaled :=
  go (d.digits.log2 + 1) d
where
  go : Nat → Scaled → Scaled
    | 0, d => d
    | n + 1, d => if d.digits ≠ 0 ∧ d.digits % 10 = 0 then go n ⟨d.digits / 10, d.exponent + 1⟩ else d

/-- The shortest decimal that rounds to a positive finite double: seventeen digits always suffice. -/
def shortest (x : Float) : Scaled :=
  let i := Interval.ofBinary (Binary.ofFloat x)
  (i.search 17 (i.leadingPlace + 1)).normalize

/-- How a decimal is written: which place of its first digit still allows positional notation. -/
structure Style where
  /-- A number below 10^`positionalBelow` is written out. -/
  positionalBelow : Int
  /-- A number with at most this many zeros after the point is written out. -/
  leadingZeros : Int

/-- An exponent, always with its sign. -/
def exponentText (e : Int) : String := (if e < 0 then "e-" else "e+") ++ toString e.natAbs

/-- Digits, zeros and a point; or a digit, a point, more digits and an exponent. -/
def Style.write (style : Style) (d : Scaled) : String :=
  let digits := toString d.digits
  let point : Int := digits.length + d.exponent
  if 0 ≤ d.exponent ∧ point ≤ style.positionalBelow then
    digits ++ String.ofList (List.replicate d.exponent.toNat '0') ++ ".0"
  else if 0 < point ∧ point ≤ style.positionalBelow then
    String.ofList (digits.toList.take point.toNat) ++ "." ++ String.ofList (digits.toList.drop point.toNat)
  else if -style.leadingZeros ≤ point ∧ point ≤ 0 then
    "0." ++ String.ofList (List.replicate (-point).toNat '0') ++ digits
  else
    match digits.toList with
    | [] => ""
    | [c] => c.toString ++ exponentText (point - 1)
    | c :: cs => c.toString ++ "." ++ String.ofList cs ++ exponentText (point - 1)

/-- A finite double in its shortest form; zero keeps its sign. -/
def Style.text (style : Style) (x : Float) : String :=
  let sign := if x.toBits.toNat < Nat.pow 2 63 then "" else "-"
  if x == 0 then sign ++ "0.0" else sign ++ style.write (shortest x)

end ServiceControl.Decimal
