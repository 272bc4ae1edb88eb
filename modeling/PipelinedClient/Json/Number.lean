import PipelinedClient.Binary64
import PipelinedClient.Decimal.Numeral

/-! The numbers that numerals denote.

A numeral without point and exponent is an integer where it fits a 64-bit word,
unsigned when positive and signed when negative; negative zero has no integer
and is a double. Every other numeral is a double: as many leading digits as fit
an unsigned word are read exactly, rounded once, and scaled by a power of ten
that is itself rounded.
-/

set_option autoImplicit false

namespace PipelinedClient.Json

inductive Number where
  | integer (value : Int)
  | double (value : Binary64)
  deriving DecidableEq

/-- Digits of a whole part that fit an unsigned word, and how many were left out;
the fuel bounds how many. -/
def leadingWord : Nat → Nat → Nat × Nat
  | 0, whole => (whole, 0)
  | fuel + 1, whole =>
    if whole < UInt64.size then (whole, 0)
    else
      let (word, omitted) := leadingWord fuel (whole / 10)
      (word, omitted + 1)

def appendDigits (word : Nat) : List Char → Nat × Nat
  | [] => (word, 0)
  | digit :: rest =>
    let longer := word * 10 + (digit.toNat - '0'.toNat)
    if longer < UInt64.size then
      let (word, appended) := appendDigits longer rest
      (word, appended + 1)
    else (word, 0)

def greatestPower : Nat := 308

def powerOfTen (power : Nat) : Nat := Binary64.roundQuotient (Nat.pow 10 power) 1

/-- Divide a magnitude by a power of ten, in steps of the greatest one. -/
def shrink (magnitude power : Nat) : Nat :=
  if power ≤ greatestPower then Binary64.dividedBy magnitude (powerOfTen power)
  else if magnitude = 0 then 0
  else shrink (Binary64.dividedBy magnitude (powerOfTen greatestPower)) (power - greatestPower)
termination_by power
decreasing_by
  simp only [greatestPower] at *
  omega

def scale? (magnitude : Nat) (power : Int) : Option Nat :=
  if power < 0 then some (shrink magnitude power.natAbs)
  else if power ≤ greatestPower then
    let product := Binary64.times magnitude (powerOfTen power.toNat)
    if product < Binary64.infinity then some product else none
  else if magnitude = 0 then some 0
  else none

def double? (numeral : Numeral) : Option Binary64 :=
  let (word, omitted) := leadingWord (Nat.toDigits 10 numeral.whole).length numeral.whole
  let (word, appended) := appendDigits word numeral.fraction
  let power := (omitted : Int) - appended + numeral.power.getD 0
  (scale? (Binary64.roundQuotient word 1) power).map (Binary64.ofMagnitude numeral.negative)

def integer? (numeral : Numeral) : Option Int :=
  if !numeral.isWhole then none
  else if numeral.negative then
    if 0 < numeral.whole ∧ Int64.minValue.toInt ≤ -numeral.whole then some (-numeral.whole)
    else none
  else if numeral.whole < UInt64.size then some numeral.whole
  else none

def number? (numeral : Numeral) : Option Number :=
  match integer? numeral with
  | some value => some (.integer value)
  | none => (double? numeral).map .double

end PipelinedClient.Json
