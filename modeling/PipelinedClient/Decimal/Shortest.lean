/-! The fewest decimal digits that identify a binary floating-point magnitude.

A magnitude `m * 2 ^ q` stands for the interval of reals that round to it: half
the distance to each neighbour, ends included exactly when `m` is even. On the
grid of `n`-digit decimals only the two points around the magnitude can be the
nearest; the first grid with a point inside the interval gives the digits, the
nearer of two points wins, and `Tie` settles a draw. All comparisons are exact.
-/

set_option autoImplicit false

namespace PipelinedClient

structure Decimal where
  digits : Nat
  power : Int
  deriving DecidableEq

/-- Which of two equally near decimals is taken: the larger, or the one with an even digit. -/
inductive Tie where
  | up
  | even
  deriving DecidableEq

namespace Decimal

def exponent (decimal : Decimal) : Int :=
  decimal.power + ((Nat.toDigits 10 decimal.digits).length : Int) - 1

/-- Digits without trailing zeros; the fuel bounds how many are dropped. -/
def stripZeros : Nat → Decimal → Decimal
  | 0, decimal => decimal
  | fuel + 1, decimal =>
    if decimal.digits % 10 = 0 then stripZeros fuel ⟨decimal.digits / 10, decimal.power + 1⟩
    else decimal

/-- The exponent `k` with `10 ^ k ≤ top / bottom < 10 ^ (k + 1)`, for positive operands. -/
def leadingExponent (top bottom : Nat) : Int :=
  if bottom ≤ top then ((Nat.toDigits 10 (top / bottom)).length : Int) - 1
  else -((Nat.toDigits 10 ((bottom + top - 1) / top - 1)).length : Int)

end Decimal

/-- A magnitude with its interval, in units of `2 ^ unit`: the value is `4 * m`,
the distances are to the midpoints with the neighbours. -/
structure RoundingInterval where
  value : Nat
  below : Nat
  above : Nat
  closed : Bool
  unit : Int

namespace RoundingInterval

/-- The interval of `significand * 2 ^ exponent`; at a power of two the neighbour
below is half as far. -/
def ofBinary (significand : Nat) (exponent : Int) (powerOfTwo : Bool) : RoundingInterval :=
  ⟨4 * significand, if powerOfTwo then 1 else 2, 2, significand % 2 = 0, exponent - 2⟩

def holds (interval : RoundingInterval) (candidate scale : Nat) : Bool :=
  let low := (interval.value - interval.below) * scale
  let high := (interval.value + interval.above) * scale
  if interval.closed then low ≤ candidate && candidate ≤ high
  else low < candidate && candidate < high

def withDigits? (interval : RoundingInterval) (tie : Tie) (leading : Int) (count : Nat) :
    Option Decimal :=
  -- Everything is scaled to integers: decimals by `gridScale`, the interval by `valueScale`.
  let step := leading - count + 1
  let gridScale := Nat.pow 10 step.toNat <<< (-interval.unit).toNat
  let valueScale := Nat.pow 10 (-step).toNat <<< interval.unit.toNat
  let value := interval.value * valueScale
  let lower := value / gridScale
  let upper := lower + 1
  let toLower := value - lower * gridScale
  let toUpper := upper * gridScale - value
  let takeUpper := match compare toUpper toLower with
    | .lt => true
    | .gt => false
    | .eq => match tie with
      | .up => true
      | .even => upper % 2 = 0
  match interval.holds (lower * gridScale) valueScale, interval.holds (upper * gridScale) valueScale with
  | true, true => some ⟨if takeUpper then upper else lower, step⟩
  | true, false => some ⟨lower, step⟩
  | false, true => some ⟨upper, step⟩
  | false, false => none

/-- The shortest decimal inside the interval; seventeen digits always suffice. -/
def shortest (interval : RoundingInterval) (tie : Tie) : Decimal :=
  let leading := Decimal.leadingExponent (interval.value <<< interval.unit.toNat)
    (1 <<< (-interval.unit).toNat)
  let found := (List.range 17).findSome? fun index =>
    interval.withDigits? tie leading (index + 1)
  (found.getD ⟨interval.value, 0⟩).stripZeros 18

end RoundingInterval

end PipelinedClient
