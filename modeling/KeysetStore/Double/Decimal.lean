import KeysetStore.Double

/-!
# Double/Decimal — the shortest decimal of a double

The text of a double has the fewest digits that still read back as it, the nearest of those, and of
two equally near the upper one.  It is always positional: no exponent, and no fractional part on a
whole number.
-/

namespace KeysetStore.Double

/-- `digits * 10 ^ exponent`. -/
structure Decimal where
  /-- The digits, as one number. -/
  digits : Nat
  /-- The power of ten of the last digit. -/
  exponent : Int
deriving DecidableEq

/-- **The numbers that round to one double**, as multiples of a common unit `2 ^ scale`: from `low`
to `high` around `value`, the ends included where the significand is even. -/
structure Interval where
  low : Nat
  value : Nat
  high : Nat
  scale : Int
  closed : Bool

/-- The interval of a positive finite double, in quarters of its last significand bit.  Just below a
power of two the doubles lie twice as close. -/
def interval (x : Double) : Interval where
  low := 4 * x.significand -
    if x.significand = 2 ^ (52 : Nat) ∧ 2 ^ (53 : Nat) ≤ x.magnitude then 1 else 2
  value := 4 * x.significand
  high := 4 * x.significand + 2
  scale := x.power - 2
  closed := x.significand % 2 = 0

/-- The multiple of `10 ^ exponent` next to the value that lies in the interval, if there is one:
the nearer of the two neighbours, the upper one in a tie. -/
def Interval.onGrid? (i : Interval) (exponent : Int) : Option Nat :=
  let line := 2 ^ i.scale.toNat * 10 ^ (-exponent).toNat
  let grid := 2 ^ (-i.scale).toNat * 10 ^ exponent.toNat
  let below := i.value * line / grid
  let inside (n : Nat) : Bool :=
    if i.closed then i.low * line ≤ n * grid ∧ n * grid ≤ i.high * line
    else i.low * line < n * grid ∧ n * grid < i.high * line
  let nearer := if (2 * below + 1) * grid ≤ 2 * i.value * line then below + 1 else below
  let farther := 2 * below + 1 - nearer
  if inside nearer then some nearer else if inside farther then some farther else none

/-- The coarsest grid below `10 ^ (steps - 345)` that meets the interval. -/
def Interval.shortestFrom (i : Interval) : (steps : Nat) → Decimal
  | 0 => ⟨0, 0⟩
  | steps + 1 =>
    let exponent : Int := steps - 345
    match i.onGrid? exponent with
    | some digits => ⟨digits, exponent⟩
    | none => i.shortestFrom steps

/-- **The shortest decimal of a positive finite double.**  No double reaches `10 ^ 310`, and the
grid of `10 ^ (-345)` meets every interval. -/
def shortest (x : Double) : Decimal := x.interval.shortestFrom 655

/-- A decimal without an exponent. -/
def Decimal.positional (d : Decimal) : String :=
  let text := toString d.digits
  let fraction := (-d.exponent).toNat
  let padded := String.ofList (List.replicate (fraction + 1 - text.length) '0') ++ text
  let whole := padded.toList.take (padded.length - fraction)
  if fraction = 0 then text ++ String.ofList (List.replicate d.exponent.toNat '0')
  else String.ofList (whole ++ '.' :: padded.toList.drop whole.length)

/-- **The text of a double.** -/
def text (x : Double) : String :=
  let sign := if x.negative then "-" else ""
  if x.isNaN then "NaN"
  else if x.magnitude = infinite then sign ++ "inf"
  else if x.magnitude = 0 then sign ++ "0"
  else sign ++ x.shortest.positional

end KeysetStore.Double
