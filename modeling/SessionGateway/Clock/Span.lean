/-! Lengths of time, positive or negative, to the nanosecond. -/

namespace SessionGateway

structure Span where
  nanos : Int
deriving DecidableEq, Inhabited

namespace Span

def ofSeconds (n : Int) : Span := ⟨n * 1000000000⟩

def ofMillis (n : Int) : Span := ⟨n * 1000000⟩

/-- The part of a second that is left over does not count, whatever the sign. -/
def wholeSeconds (d : Span) : Int :=
  d.nanos.tdiv 1000000000

/-- What whole seconds leave over, with the sign of the span. -/
def subsecond (d : Span) : Int :=
  d.nanos.tmod 1000000000

instance : Add Span := ⟨fun a b => ⟨a.nanos + b.nanos⟩⟩

def IsPositive (d : Span) : Prop := 0 < d.nanos

instance (d : Span) : Decidable d.IsPositive := inferInstanceAs (Decidable (0 < d.nanos))

@[simp] theorem wholeSeconds_ofSeconds (n : Int) : (ofSeconds n).wholeSeconds = n := by
  simp [ofSeconds, wholeSeconds]

end Span

end SessionGateway
