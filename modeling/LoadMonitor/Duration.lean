/-!
# Durations

A span of time in whole nanoseconds. Points of the monotonic clock are spans since the
clock began.
-/

namespace LoadMonitor

/-- A span of time. -/
structure Duration where
  nanos : Nat
  deriving DecidableEq, Repr, Inhabited

namespace Duration

def zero : Duration := ⟨0⟩

def ofSecs (n : Nat) : Duration := ⟨n * 1000000000⟩

def ofMillis (n : Nat) : Duration := ⟨n * 1000000⟩

/-- The whole seconds of the span. -/
def secs (d : Duration) : Nat := d.nanos / 1000000000

/-- The nanoseconds beyond the whole seconds. -/
def subsecNanos (d : Duration) : Nat := d.nanos % 1000000000

/-- The whole milliseconds of the span. -/
def millis (d : Duration) : Nat := d.nanos / 1000000

/-- The whole microseconds of the span. -/
def micros (d : Duration) : Nat := d.nanos / 1000

def add (a b : Duration) : Duration := ⟨a.nanos + b.nanos⟩

/-- The span between two points of the clock, nothing if the second is not later. -/
def since (now start : Duration) : Duration := ⟨now.nanos - start.nanos⟩

instance : Add Duration := ⟨add⟩
instance : LT Duration := ⟨fun a b => a.nanos < b.nanos⟩
instance : LE Duration := ⟨fun a b => a.nanos ≤ b.nanos⟩

instance (a b : Duration) : Decidable (a < b) := inferInstanceAs (Decidable (a.nanos < b.nanos))
instance (a b : Duration) : Decidable (a ≤ b) := inferInstanceAs (Decidable (a.nanos ≤ b.nanos))

@[simp] theorem nanos_add (a b : Duration) : (a + b).nanos = a.nanos + b.nanos := rfl

theorem le_iff (a b : Duration) : a ≤ b ↔ a.nanos ≤ b.nanos := Iff.rfl

end Duration
end LoadMonitor
