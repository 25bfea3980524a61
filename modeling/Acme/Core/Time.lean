/-! Lengths of time and the monotone clock. -/

namespace Acme

/-- A length of time in nanoseconds, within the range of a 64-bit number of seconds. -/
structure Duration where
  nanos : Nat
  bounded : nanos < UInt64.size * 1000000000
deriving DecidableEq

namespace Duration

/-- A whole number of seconds. -/
def fromSecs (secs : UInt64) : Duration :=
  { nanos := secs.toNat * 1000000000
    bounded := by
      have small := secs.toNat_lt_size
      omega }

/-- The longest length of time. -/
def max : Duration :=
  { nanos := UInt64.size * 1000000000 - 1, bounded := by decide }

/-- Decimal digits of a fraction, the first one worth `divisor`, without trailing zeros. -/
def fractionDigits : Nat → Nat → Nat → String
  | 0, _, _ => ""
  | count + 1, fraction, divisor =>
    if fraction = 0 then ""
    else toString (fraction / divisor) ++ fractionDigits count (fraction % divisor) (divisor / 10)

/-- A decimal number with its unit. -/
def fmtDecimal (whole fraction divisor : Nat) (postfix_ : String) : String :=
  let digits := fractionDigits 9 fraction divisor
  if digits = "" then toString whole ++ postfix_
  else toString whole ++ "." ++ digits ++ postfix_

/-- The debug text: in seconds, milliseconds, microseconds or nanoseconds, the largest that fits. -/
def debug (duration : Duration) : String :=
  let secs := duration.nanos / 1000000000
  let nanos := duration.nanos % 1000000000
  if 0 < secs then fmtDecimal secs nanos 100000000 "s"
  else if 1000000 ≤ nanos then fmtDecimal (nanos / 1000000) (nanos % 1000000) 100000 "ms"
  else if 1000 ≤ nanos then fmtDecimal (nanos / 1000) (nanos % 1000) 100 "µs"
  else fmtDecimal nanos 0 1 "ns"

end Duration

/-- A reading of the monotone clock, in nanoseconds. -/
abbrev Instant := Nat

end Acme
