import PipelinedClient.Binary64
import PipelinedClient.Decimal.Numeral

/-! How a double is written as a numeral: shortest digits, positional in a middle
range and scientific outside it. -/

set_option autoImplicit false

namespace PipelinedClient

/-- The choices of one notation for doubles: the least and greatest decimal
exponent written positionally, and how equally near digits are settled. -/
structure DoubleLayout where
  lowest : Int
  highest : Int
  tie : Tie

namespace DoubleLayout

def padded (width value : Nat) : List Char :=
  let digits := Nat.toDigits 10 value
  List.replicate (width - digits.length) '0' ++ digits

def positional (negative : Bool) (decimal : Decimal) : Numeral :=
  let places := (-decimal.power).toNat
  let unit := Nat.pow 10 places
  if places = 0 then
    ⟨negative, decimal.digits * Nat.pow 10 decimal.power.toNat, ['0'], none⟩
  else ⟨negative, decimal.digits / unit, padded places (decimal.digits % unit), none⟩

/-- One digit before the point and a power of ten; no point for a single digit. -/
def scientific (negative : Bool) (decimal : Decimal) : Numeral :=
  let places := (Nat.toDigits 10 decimal.digits).length - 1
  let unit := Nat.pow 10 places
  ⟨negative, decimal.digits / unit,
    if places = 0 then [] else padded places (decimal.digits % unit),
    some decimal.exponent⟩

def numeral (layout : DoubleLayout) (negative : Bool) (magnitude : Nat) : Numeral :=
  if magnitude = 0 then ⟨negative, 0, ['0'], none⟩
  else
    let decimal := Binary64.shortestDecimal layout.tie magnitude
    if layout.lowest ≤ decimal.exponent && decimal.exponent ≤ layout.highest then
      positional negative decimal
    else scientific negative decimal

end DoubleLayout

end PipelinedClient
