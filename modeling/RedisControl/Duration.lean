/-!
# Durations

A length of time in whole milliseconds.
-/

namespace RedisControl

/-- A length of time. -/
structure Duration where
  /-- The number of milliseconds. -/
  millis : Nat
  deriving DecidableEq, Repr

namespace Duration

def zero : Duration := ⟨0⟩

/-- A number of seconds. -/
def ofSeconds (n : Nat) : Duration := ⟨1000 * n⟩

/-- The whole seconds of a duration. -/
def seconds (d : Duration) : Nat := d.millis / 1000

@[simp] theorem seconds_ofSeconds (n : Nat) : (ofSeconds n).seconds = n := by
  simp [seconds, ofSeconds]

end Duration

end RedisControl
