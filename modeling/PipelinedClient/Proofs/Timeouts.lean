import Mathlib.Order.Bounds.Basic
import PipelinedClient.Proofs.EffectiveSettings

/-! How a timeout travels.

A timeout travels in whole milliseconds: the least number that is no shorter, or the greatest
number that a word holds if that is less. What is told differs from what was asked by less
than a millisecond unless it is clamped, and every difference is noticed in the log. Counting
nanoseconds in words of 128 bits comes to the same as counting them without a limit.
-/

set_option autoImplicit false

namespace PipelinedClient

abbrev WideWord := BitVec 128

namespace WideWord

def add? (first second : WideWord) : Option WideWord :=
  if first.uaddOverflow second then none else some (first + second)

def mul? (first second : WideWord) : Option WideWord :=
  if first.umulOverflow second then none else some (first * second)

theorem toNat_add? {first second : WideWord} (fits : first.uaddOverflow second = false) :
    ∃ sum, add? first second = some sum ∧ sum.toNat = first.toNat + second.toNat := by
  refine ⟨first + second, ?_, BitVec.toNat_add_of_not_uaddOverflow (by simp [fits])⟩
  simp [add?, fits]

theorem toNat_mul? {first second : WideWord} (fits : first.umulOverflow second = false) :
    ∃ product, mul? first second = some product ∧
      product.toNat = first.toNat * second.toNat := by
  refine ⟨first * second, ?_, BitVec.toNat_mul_of_not_umulOverflow (by simp [fits])⟩
  simp [mul?, fits]

end WideWord

namespace Duration

/-- All nanoseconds in one wide word, unless that overflows on the way. -/
def wideNanos? (duration : Duration) : Option WideWord := do
  let whole ← WideWord.mul? (duration.seconds.toBitVec.setWidth 128) 1000000000#128
  WideWord.add? whole (BitVec.ofNat 128 duration.nanos)

theorem totalNanos_lt (duration : Duration) :
    duration.totalNanos < 18446744073709551616000000000 := by
  have seconds := duration.seconds.toNat_lt
  have fraction := duration.nanos_lt
  unfold totalNanos
  omega

theorem toNat_wideNanos? (duration : Duration) :
    ∃ word, duration.wideNanos? = some word ∧ word.toNat = duration.totalNanos := by
  have seconds := duration.seconds.toNat_lt
  have fraction := duration.nanos_lt
  have wide : (duration.seconds.toBitVec.setWidth 128).toNat = duration.seconds.toNat := by
    rw [BitVec.toNat_setWidth, UInt64.toNat_toBitVec]
    omega
  have narrow : (BitVec.ofNat 128 duration.nanos).toNat = duration.nanos := by
    rw [BitVec.toNat_ofNat]
    omega
  have unit : (1000000000#128).toNat = 1000000000 := rfl
  -- Seconds fill half of a wide word at most, and nanoseconds of a second take 30 bits more.
  have inRange : (duration.seconds.toBitVec.setWidth 128).umulOverflow 1000000000#128 = false := by
    rw [BitVec.umulOverflow, decide_eq_false_iff_not, wide, unit]
    omega
  obtain ⟨whole, multiplied, product⟩ := WideWord.toNat_mul? inRange
  rw [wide, unit] at product
  have stillInRange : whole.uaddOverflow (BitVec.ofNat 128 duration.nanos) = false := by
    rw [BitVec.uaddOverflow, decide_eq_false_iff_not, product, narrow]
    omega
  obtain ⟨word, added, sum⟩ := WideWord.toNat_add? stillInRange
  refine ⟨word, ?_, ?_⟩
  · rw [wideNanos?, multiplied]
    exact added
  · rw [sum, product, narrow, totalNanos]

end Duration

namespace TransactionSettings

def wideMillis? (timeout : Duration) : Option WideWord := do
  let nanos ← timeout.wideNanos?
  let millis := nanos / 1000000#128
  if nanos % 1000000#128 = 0#128 then return millis else WideWord.add? millis 1#128

theorem toNat_wideMillis? (timeout : Duration) :
    ∃ word, wideMillis? timeout = some word ∧ word.toNat = timeoutMillis timeout := by
  obtain ⟨nanos, counted, count⟩ := timeout.toNat_wideNanos?
  have bound := timeout.totalNanos_lt
  have quotient : (nanos / 1000000#128).toNat = timeout.totalNanos / nanosPerMilli := by
    rw [BitVec.toNat_udiv, count]
    rfl
  have whole : nanos % 1000000#128 = 0#128 ↔ timeout.totalNanos % nanosPerMilli = 0 := by
    rw [← BitVec.toNat_inj, BitVec.toNat_umod, count]
    exact Iff.rfl
  rw [wideMillis?, counted, timeoutMillis]
  by_cases exact : timeout.totalNanos % nanosPerMilli = 0
  · refine ⟨nanos / 1000000#128, ?_, ?_⟩
    · exact if_pos (whole.mpr exact)
    · rw [quotient, if_pos exact]
  · -- Dividing left room for one more.
    have inRange : (nanos / 1000000#128).uaddOverflow 1#128 = false := by
      have one : (1#128).toNat = 1 := rfl
      have smaller := Nat.div_le_self timeout.totalNanos nanosPerMilli
      rw [BitVec.uaddOverflow, decide_eq_false_iff_not, quotient, one]
      omega
    obtain ⟨word, added, sum⟩ := WideWord.toNat_add? inRange
    refine ⟨word, ?_, ?_⟩
    · exact (if_neg (mt whole.mp exact)).trans added
    · rw [sum, quotient, if_neg exact]
      rfl

/-- Rounding up is the least choice that is no shorter. -/
theorem timeoutMillis_isLeast (timeout : Duration) :
    IsLeast {millis : Int | timeout.totalNanos ≤ millis * 1000000} (timeoutMillis timeout) := by
  rw [timeoutMillis_eq]
  constructor
  · show (timeout.totalNanos : Int) ≤ _
    omega
  · intro millis enough
    change (timeout.totalNanos : Int) ≤ millis * 1000000 at enough
    omega

end TransactionSettings

/-- A word tells a timeout in milliseconds, of which it takes so many. -/
structure TellsTimeout (word : Int64) (timeout : Duration) (millis : Nat) : Prop where
  least : IsLeast {millis : Int | timeout.totalNanos ≤ millis * 1000000} millis
  value : word.toInt =
    if (millis : Int) ≤ Int64.maxValue.toInt then (millis : Int) else Int64.maxValue.toInt
  inRange : 0 ≤ word.toInt ∧ word.toInt ≤ Int64.maxValue.toInt
  notShorter : (millis : Int) ≤ Int64.maxValue.toInt →
    (timeout.totalNanos : Int) ≤ word.toInt * 1000000
  within : (millis : Int) ≤ Int64.maxValue.toInt →
    word.toInt * 1000000 < timeout.totalNanos + 1000000
  notZero : timeout.totalNanos ≠ 0 → word ≠ 0

namespace TransactionSettings

theorem timeoutWord_tells (timeout : Duration) :
    TellsTimeout (timeoutWord timeout) timeout (timeoutMillis timeout) := by
  have greatest : Int64.maxValue.toInt = 9223372036854775807 := by decide
  have word := toInt_timeoutWord timeout
  have millis := timeoutMillis_eq timeout
  -- The word is the lesser of the two numbers; the bounds follow from that.
  unfold Duration.effectiveMillis at word
  rw [← millis] at word
  refine ⟨timeoutMillis_isLeast timeout, ?_, ?_, ?_, ?_, ?_⟩
  · split <;> omega
  · omega
  · intro fits
    omega
  · intro fits
    omega
  · intro some zero
    rw [zero] at word
    have none : (0 : Int64).toInt = 0 := rfl
    omega

theorem timeoutWord_mono {shorter longer : Duration}
    (order : shorter.totalNanos ≤ longer.totalNanos) :
    timeoutWord shorter ≤ timeoutWord longer := by
  rw [Int64.le_iff_toInt_le, toInt_timeoutWord, toInt_timeoutWord]
  unfold Duration.effectiveMillis
  omega

/-- A fraction of a millisecond is noticed first, then a number that a word does not hold. -/
theorem timeoutNotices_eq (timeout : Duration) :
    timeoutNotices timeout =
      (if 1000000 ∣ timeout.totalNanos then []
        else [.lookup "TransactionMetadataBuilder", .line .info roundedNotice]) ++
      (if Int64.maxValue.toInt < timeoutMillis timeout
        then [.lookup "TransactionMetadataBuilder", .line .warn clampedNotice] else []) := by
  unfold timeoutNotices
  have whole : 1000000 ∣ timeout.totalNanos ↔ timeout.totalNanos % nanosPerMilli = 0 :=
    Nat.dvd_iff_mod_eq_zero
  congr 1
  · simp only [whole]
    rfl
  · rw [← ite_not]
    simp only [Int.not_le]
    rfl

/-- A timeout travels as the least whole number of milliseconds that is no shorter, or as the
greatest number a word holds. A longer timeout is never told as a shorter one, counting in wide
words overflows nowhere, and the log tells of rounding and then of clamping, and of nothing
else. -/
theorem timeouts_are_rounded_up (legacy : Bool) (settings : TransactionSettings)
    (timeout : Duration) :
    let timed := { settings with timeout := some timeout }
    (timed.toMetadata legacy).find? "tx_timeout" = some (.integer (timeoutWord timeout)) ∧
      TellsTimeout (timeoutWord timeout) timeout (timeoutMillis timeout) ∧
      (∀ longer : Duration, timeout.totalNanos ≤ longer.totalNanos →
        timeoutWord timeout ≤ timeoutWord longer) ∧
      (∃ word, wideMillis? timeout = some word ∧ word.toNat = timeoutMillis timeout) ∧
      timed.notices =
        (if 1000000 ∣ timeout.totalNanos then []
          else [.lookup "TransactionMetadataBuilder", .line .info roundedNotice]) ++
        (if Int64.maxValue.toInt < timeoutMillis timeout
          then [.lookup "TransactionMetadataBuilder", .line .warn clampedNotice] else []) := by
  intro timed
  have bound : ("tx_timeout", some (Value.integer (timeoutWord timeout))) ∈ timed.slots legacy :=
    List.mem_cons_self
  exact ⟨find?_toMetadata bound, timeoutWord_tells timeout, fun _ => timeoutWord_mono,
    toNat_wideMillis? timeout, timeoutNotices_eq timeout⟩

/-- At the greatest number of milliseconds that a word holds, one nanosecond more is rounded up
and then clamped. -/
example :
    let exactly : Duration := ⟨9223372036854775, 807000000, by decide⟩
    let more : Duration := ⟨9223372036854775, 807000001, by decide⟩
    timeoutWord exactly = Int64.maxValue ∧ timeoutNotices exactly = [] ∧
      timeoutWord more = Int64.maxValue ∧ (timeoutNotices more).length = 4 := by
  decide

end TransactionSettings

end PipelinedClient
