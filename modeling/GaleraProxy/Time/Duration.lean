/-!
# Durations and moments

A duration is a whole number of nanoseconds. Its text is the number in the greatest unit of which it
holds at least one, with as many decimals as it needs.

A moment is a number of nanoseconds on the monotonic clock. The clock counts seconds in 63 bits, so
a moment too far ahead cannot be told: `later?` adds a duration to a moment where the sum can be.
-/

namespace GaleraProxy

/-- A span of time in nanoseconds. -/
structure Duration where
  nanos : Nat
  deriving DecidableEq, Repr

namespace Duration

/-- No time at all. -/
def zero : Duration := ⟨0⟩

/-- A number of milliseconds. -/
def ofMillis (n : Nat) : Duration := ⟨n * 1000000⟩

/-- A number of seconds. -/
def ofSeconds (n : Nat) : Duration := ⟨n * 1000000000⟩

/-- The whole seconds. -/
def seconds (d : Duration) : Nat := d.nanos / 1000000000

/-- The nanoseconds beyond the whole seconds. -/
def subsecondNanos (d : Duration) : Nat := d.nanos % 1000000000

/-- The whole milliseconds. -/
def millis (d : Duration) : Nat := d.nanos / 1000000

/-- The `n`th part, rounded down to nanoseconds. -/
def part (d : Duration) (n : Nat) : Duration := ⟨d.nanos / n⟩

/-- Decimals of a fraction with `places` digits, without the zeros at the end. -/
def decimals (fraction places : Nat) : String :=
  let digits := (Nat.toDigits 10 (Nat.pow 10 places + fraction)).drop 1
  let kept := (digits.reverse.dropWhile (· == '0')).reverse
  if kept.isEmpty then "" else "." ++ String.ofList kept

/-- The text of a duration. -/
def text (d : Duration) : String :=
  let inUnit (places : Nat) (unit : String) : String :=
    toString (d.nanos / Nat.pow 10 places) ++ decimals (d.nanos % Nat.pow 10 places) places ++ unit
  if Nat.pow 10 9 ≤ d.nanos then inUnit 9 "s"
  else if Nat.pow 10 6 ≤ d.nanos then inUnit 6 "ms"
  else if Nat.pow 10 3 ≤ d.nanos then inUnit 3 "µs"
  else inUnit 0 "ns"

end Duration

/-! ## Moments of the clock -/

/-- A moment on the monotonic clock. -/
abbrev Moment := Nat

namespace Moment

/-- Every moment lies before this one. -/
def horizon : Moment := Nat.pow 2 63 * 1000000000

/-- The moment that lies a duration after another, if the clock can show it. -/
def later? (now : Moment) (d : Duration) : Option Moment :=
  if now + d.nanos < horizon then some (now + d.nanos) else none

/-- What is said where the clock cannot show a moment. -/
def overflowMessage : String := "overflow when adding duration to instant"

end Moment

end GaleraProxy
