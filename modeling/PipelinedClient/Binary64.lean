import PipelinedClient.Decimal.Shortest

/-! Double-precision numbers as bit patterns, with exact rounding.

A magnitude is the lower 63 bits of a pattern; for finite numbers, patterns and
values are ordered alike, so rounding can be stated on natural numbers. Two
doubles are equal as data when their bits are; `agrees` is numeric comparison,
where a NaN differs from itself and the two zeros coincide.
-/

set_option autoImplicit false

namespace PipelinedClient

/-- A double, given by its 64 bits: sign, eleven of exponent, fifty-two of fraction. -/
structure Binary64 where
  bits : UInt64
  deriving DecidableEq

namespace Binary64

def binade : Nat := 1 <<< 52

def signBit : Nat := 1 <<< 63

/-- The bits of positive infinity, the least magnitude that is no finite number. -/
def infinity : Nat := 2047 * binade

def magnitude (double : Binary64) : Nat := double.bits.toNat % signBit

def negative (double : Binary64) : Bool := signBit ≤ double.bits.toNat

def isNaN (double : Binary64) : Bool := infinity < double.magnitude

def isFinite (double : Binary64) : Bool := double.magnitude < infinity

def isZero (double : Binary64) : Bool := double.magnitude = 0

def ofMagnitude (negative : Bool) (magnitude : Nat) : Binary64 :=
  ⟨UInt64.ofNat ((if negative then signBit else 0) + magnitude)⟩

def agrees (first second : Binary64) : Bool :=
  !first.isNaN && !second.isNaN &&
    (first.bits == second.bits || (first.isZero && second.isZero))

/-- A finite magnitude is `significand * 2 ^ exponent`. -/
def significand (magnitude : Nat) : Nat :=
  if magnitude < binade then magnitude else magnitude % binade + binade

def exponent (magnitude : Nat) : Int :=
  if magnitude < binade then -1074 else (magnitude / binade : Nat) - 1075

/-- Nearest integer to a quotient, a half going to the even neighbour. -/
def divideNearest (top bottom : Nat) : Nat :=
  let quotient := top / bottom
  let twice := 2 * (top % bottom)
  if twice < bottom then quotient
  else if bottom < twice then quotient + 1
  else quotient + quotient % 2

/-- The magnitude nearest to a quotient of positive numbers, a half going to the
even significand; what is too large becomes infinity. -/
def roundQuotient (top bottom : Nat) : Nat :=
  if top = 0 then 0
  else
    -- The quotient over `2 ^ guess` has 53 or 54 bits, or fewer among subnormals.
    let guess : Int := max (-1074) ((top.log2 : Int) - bottom.log2 - 53)
    let scaled (power : Int) : Nat × Nat :=
      (top <<< (-power).toNat, bottom <<< power.toNat)
    let power := if (scaled guess).1 / (scaled guess).2 < 2 * binade then guess else guess + 1
    -- A significand that rounds up to 54 bits carries into the exponent.
    min infinity
      ((power + 1074).toNat * binade + divideNearest (scaled power).1 (scaled power).2)

def times (first second : Nat) : Nat :=
  let power := exponent first + exponent second
  roundQuotient ((significand first * significand second) <<< power.toNat)
    (1 <<< (-power).toNat)

def dividedBy (first second : Nat) : Nat :=
  let power := exponent first - exponent second
  roundQuotient (significand first <<< power.toNat)
    (significand second <<< (-power).toNat)

def ofInt (value : Int) : Binary64 := ofMagnitude (value < 0) (roundQuotient value.natAbs 1)

def shortestDecimal (tie : Tie) (magnitude : Nat) : Decimal :=
  (RoundingInterval.ofBinary (significand magnitude) (exponent magnitude)
    (2 * binade ≤ magnitude && magnitude % binade = 0)).shortest tie

end Binary64

end PipelinedClient
