/-!
# Spans of time

A length of time in seconds and nanoseconds, with less than a second of nanoseconds.
-/

namespace GraphDriver

/-- A length of time. -/
structure Span where
  secs : UInt64
  nanos : UInt32
  nanos_lt : nanos.toNat < 1000000000 := by decide
deriving DecidableEq

namespace Span

/-- A span from seconds and any number of nanoseconds: full seconds among the nanoseconds are
carried over, and the result has to fit. -/
def normalise? (secs : UInt64) (nanos : UInt32) : Option Span :=
  let total := secs.toNat + nanos.toNat / 1000000000
  if total < 0x10000000000000000 then
    some {
      secs := UInt64.ofNat total
      nanos := UInt32.ofNat (nanos.toNat % 1000000000)
      nanos_lt := by
        have h : nanos.toNat % 1000000000 < 1000000000 := Nat.mod_lt _ (by decide)
        rw [UInt32.toNat_ofNat_of_lt' (Nat.lt_trans h (by decide))]
        exact h }
  else none

def ofMillis (millis : Nat) : Span :=
  { secs := UInt64.ofNat (millis / 1000)
    nanos := UInt32.ofNat (millis % 1000 * 1000000)
    nanos_lt := by
      have h : millis % 1000 < 1000 := Nat.mod_lt _ (by decide)
      rw [UInt32.toNat_ofNat_of_lt' (Nat.lt_of_lt_of_le
        (Nat.mul_lt_mul_of_pos_right h (by decide)) (by decide))]
      exact Nat.mul_lt_mul_of_pos_right h (by decide) }

/-- Whole milliseconds, a started one counted in full. -/
def millis (s : Span) : Nat := s.secs.toNat * 1000 + (s.nanos.toNat + 999999) / 1000000

example : normalise? 1 1999999999 = some { secs := 2, nanos := 999999999 } := by decide
example : normalise? (-1) 1000000000 = none := by decide

end Span

end GraphDriver
