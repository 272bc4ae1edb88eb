/-! Decimal numerals as they are written: a sign, a whole part, the digits after
the point and a power of ten. A numeral is notation, not yet a number. -/

set_option autoImplicit false

namespace PipelinedClient

/-- A numeral; without a point the fraction is empty, without an exponent the power is absent. -/
structure Numeral where
  negative : Bool
  whole : Nat
  fraction : List Char
  power : Option Int
  deriving DecidableEq

namespace Numeral

def ofInt (value : Int) : Numeral := ⟨value < 0, value.natAbs, [], none⟩

def isWhole (numeral : Numeral) : Bool := numeral.fraction.isEmpty && numeral.power.isNone

def powerText (plus : Bool) : Option Int → List Char
  | none => []
  | some power =>
    'e' :: (if power < 0 then ['-'] else if plus then ['+'] else []) ++
      Nat.toDigits 10 power.natAbs

def chars (plus : Bool) (numeral : Numeral) : List Char :=
  (if numeral.negative then ['-'] else []) ++ Nat.toDigits 10 numeral.whole ++
    (if numeral.fraction.isEmpty then [] else '.' :: numeral.fraction) ++
    powerText plus numeral.power

end Numeral

end PipelinedClient
