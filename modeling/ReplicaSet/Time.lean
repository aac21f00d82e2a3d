/-!
Virtual time. Instants and spans are natural numbers of nanoseconds, counted from the start;
timers fire on whole milliseconds.
-/
namespace ReplicaSet.Time

/-- One millisecond, the grain of every timer. -/
def millisecond : Nat := 1000000

/-- So many whole milliseconds. -/
def ofMillis (count : Nat) : Nat := count * millisecond

/-- The whole milliseconds in a span, or since the start. -/
def toMillis (time : Nat) : Nat := time / millisecond

/-- When a timer set for `time` fires: at the first whole millisecond that is not before it. -/
def tick (time : Nat) : Nat :=
  (time + (millisecond - 1)) / millisecond * millisecond

theorem le_tick (time : Nat) : time ≤ tick time := by
  unfold tick millisecond
  omega

theorem tick_lt (time : Nat) : tick time < time + millisecond := by
  unfold tick millisecond
  omega

theorem tick_ofMillis (count : Nat) : tick (ofMillis count) = ofMillis count := by
  unfold tick ofMillis millisecond
  omega

theorem toMillis_ofMillis (count : Nat) : toMillis (ofMillis count) = count := by
  unfold toMillis ofMillis millisecond
  omega

end ReplicaSet.Time
