import PipelinedClient.Text.Inspection

/-! Spans of time: whole seconds in an unsigned word and a fraction in nanoseconds. -/

set_option autoImplicit false

namespace PipelinedClient

structure Duration where
  seconds : UInt64
  nanos : Nat
  nanos_lt : nanos < 1000000000 := by decide
  deriving DecidableEq

namespace Duration

def totalNanos (duration : Duration) : Nat := duration.seconds.toNat * 1000000000 + duration.nanos

def ofSeconds (seconds : UInt64) : Duration := ⟨seconds, 0, by decide⟩

def isZero (duration : Duration) : Bool := duration.totalNanos = 0

def decimalText (value places : Nat) : String :=
  let unit := Nat.pow 10 places
  let digits := DoubleLayout.padded places (value % unit)
  let fraction := (digits.reverse.dropWhile (· == '0')).reverse
  toString (value / unit) ++
    (if value % unit = 0 then "" else "." ++ String.ofList fraction)

/-- The largest unit that has an integer part, and the fraction of it. -/
def inspect (duration : Duration) : String :=
  if 0 < duration.seconds then decimalText duration.totalNanos 9 ++ "s"
  else if 1000000 ≤ duration.nanos then decimalText duration.nanos 6 ++ "ms"
  else if 1000 ≤ duration.nanos then decimalText duration.nanos 3 ++ "µs"
  else toString duration.nanos ++ "ns"

end Duration

end PipelinedClient
