/-!
# Durations

Spans of time in whole nanoseconds, up to `2 ^ 64 - 1` seconds and 999999999 nanoseconds.  Addition
stops at that longest span.
-/

namespace Demux

namespace Duration

/-- The nanoseconds of one second. -/
def nanosPerSecond : Nat := 1000000000

/-- The nanoseconds of one millisecond. -/
def nanosPerMilli : Nat := 1000000

/-- The most seconds a span can have, `2 ^ 64 - 1`. -/
def mostSeconds : Nat := 18446744073709551615

/-- The nanoseconds of the longest span: as many seconds as a span can have, and 999999999
nanoseconds. -/
def longest : Nat := mostSeconds * nanosPerSecond + 999999999

end Duration

/-- A span of time, in nanoseconds. -/
structure Duration where
  nanos : Nat
  nanos_le : nanos ≤ Duration.longest
  deriving DecidableEq, Repr

namespace Duration

/-- The span of so many nanoseconds, or the longest span if there is none so long. -/
def clamp (nanos : Nat) : Duration :=
  ⟨min nanos longest, Nat.min_le_right _ _⟩

/-- The span of whole seconds and additional nanoseconds. -/
def ofParts (seconds nanos : Nat) : Duration := clamp (seconds * nanosPerSecond + nanos)

/-- The span of so many milliseconds. -/
def ofMillis (millis : Nat) : Duration := clamp (millis * nanosPerMilli)

/-- One span after another, stopping at the longest span. -/
def add (a b : Duration) : Duration := clamp (a.nanos + b.nanos)

/-- The whole seconds of a span. -/
def seconds (d : Duration) : Nat := d.nanos / nanosPerSecond

/-- The nanoseconds of a span past its whole seconds. -/
def subsecondNanos (d : Duration) : Nat := d.nanos % nanosPerSecond

/-- The whole milliseconds of a span. -/
def millis (d : Duration) : Nat := d.nanos / nanosPerMilli

/-- The whole milliseconds of a span as a machine word, up to `2 ^ 64 - 1`. -/
def wordMillis (d : Duration) : Nat := min d.millis 18446744073709551615

end Duration

end Demux
