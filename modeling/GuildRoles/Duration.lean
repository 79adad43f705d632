/-!
# Durations

A span of time, counted in nanoseconds. Its text names the largest of the units `s`, `ms`, `µs`
and `ns` in which the span is at least one (`ns` for zero), writes the whole number of that
unit, and then, if there is a remainder, a point and the remainder's digits down to the
nanosecond with trailing zeros dropped: `1.5µs`, `1.000000001s`, `999.999999ms`.

Timers count whole milliseconds: a timer fires on the first millisecond tick at or after its
deadline, and no timer is set more than thirty years ahead (`timerMillis`). So a call delayed by
`2ms` still ends within a limit of `1.5ms` (both fire on the second tick), and one delayed by
thirty years and a millisecond ends within a limit of thirty years.
-/

namespace GuildRoles

/-- A span of time in nanoseconds. -/
structure Duration where
  nanos : Nat
  deriving DecidableEq, Repr

namespace Duration

/-- Nanoseconds in a second. -/
def nanosPerSecond : Nat := 1000000000

/-- The span of some seconds, milliseconds and nanoseconds. -/
def ofParts (secs ms nanos : Nat) : Duration := ⟨secs * nanosPerSecond + ms * 1000000 + nanos⟩

/-- The span of some seconds. -/
def ofSeconds (secs : Nat) : Duration := ⟨secs * nanosPerSecond⟩

instance : LE Duration := ⟨fun a b => a.nanos ≤ b.nanos⟩

instance (a b : Duration) : Decidable (a ≤ b) := inferInstanceAs (Decidable (a.nanos ≤ b.nanos))

/-- Thirty years of 365 days, the furthest ahead a timer is set: a timer asked to wait longer
waits this long. -/
def horizon : Duration := ofSeconds (86400 * 365 * 30)

/-- The whole milliseconds a timer asked to wait `d` waits: `d` capped at `horizon`, rounded up
to a millisecond, since timers fire on millisecond ticks. -/
def timerMillis (d : Duration) : Nat := (min d.nanos horizon.nanos + 999999) / 1000000

/-- Whether a call that takes `work` ends within `limit`: its timer fires no later than the
limit's. When both fire on the same tick the call wins, since it is looked at first. -/
def endsWithin (work limit : Duration) : Bool := work.timerMillis ≤ limit.timerMillis

/-- The span of some milliseconds. -/
def ofMillis (ms : Nat) : Duration := ⟨ms * 1000000⟩

/-- The digits of `n` padded with zeros on the left to `width`. -/
def padded (width n : Nat) : List Char :=
  let ds := (toString n).toList
  List.replicate (width - ds.length) '0' ++ ds

/-- A whole number of a unit and a remainder of `width` digits, the remainder's trailing zeros
dropped, and the unit's name. -/
def decimal (whole fraction width : Nat) (unit : String) : String :=
  let digits := ((padded width fraction).reverse.dropWhile (· = '0')).reverse
  if fraction = 0 then toString whole ++ unit
  else toString whole ++ "." ++ String.ofList digits ++ unit

/-- The text of a span. -/
def text (d : Duration) : String :=
  let secs := d.nanos / nanosPerSecond
  let sub := d.nanos % nanosPerSecond
  if secs > 0 then decimal secs sub 9 "s"
  else if sub ≥ 1000000 then decimal (sub / 1000000) (sub % 1000000) 6 "ms"
  else if sub ≥ 1000 then decimal (sub / 1000) (sub % 1000) 3 "µs"
  else decimal sub 0 0 "ns"

example : endsWithin (ofParts 0 2 0) (ofParts 0 1 500000) = true := by decide
example : endsWithin (ofParts 1 0 1) (ofSeconds 1) = false := by decide
example : endsWithin (ofParts 946080000 1 0) (ofSeconds 946080000) = true := by decide

end Duration

end GuildRoles
