/-
# Backchannel.Duration -- spans and points of time

Both are counted in whole nanoseconds.  Points are counted from the moment the
session started.
-/

namespace Backchannel

set_option autoImplicit false

/-- A span of time in nanoseconds. -/
abbrev Duration := Nat

/-- A point in time: nanoseconds since the start. -/
abbrev Instant := Nat

namespace Duration

def ofMillis (n : Nat) : Duration := n * 1000000

def ofSeconds (n : Nat) : Duration := n * 1000000000

/-- Whole milliseconds of a span. -/
def millis (d : Duration) : Nat := d / 1000000

/-- Whole seconds of a span. -/
def seconds (d : Duration) : Nat := d / 1000000000

/-- Nanoseconds of a span beyond its whole seconds. -/
def nanos (d : Duration) : Nat := d % 1000000000

end Duration

/-- The longest wait that is ever scheduled: thirty years. -/
def maxWait : Duration := Duration.ofSeconds (30 * 365 * 24 * 60 * 60)

/-- The point a wait after another, longer waits cut to `maxWait`. -/
def deadlineAfter (start : Instant) (wait : Duration) : Instant := start + min wait maxWait

end Backchannel
