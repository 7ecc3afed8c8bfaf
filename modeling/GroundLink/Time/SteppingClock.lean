import GroundLink.Time.Span

/-!
# Stepping clock

A clock that only moves when somebody sleeps on it.  It counts nanoseconds in 64 bits and starts
over when they are used up.
-/

namespace GroundLink

/-- A stepping clock. -/
structure SteppingClock where
  nanos : UInt64
  deriving DecidableEq, Inhabited

namespace SteppingClock

/-- The clock before anybody slept. -/
def start : SteppingClock := ⟨0⟩

def now (c : SteppingClock) : Span := Span.ofNanos c.nanos.toNat

def advance (c : SteppingClock) (d : Span) : SteppingClock :=
  ⟨c.nanos + UInt64.ofNat d.nanos⟩

/-- The time since an earlier reading, or nothing if the reading lies in the future. -/
def elapsedSince (c : SteppingClock) (reading : Span) : Span :=
  c.now - reading

end SteppingClock

end GroundLink
