/-! A timer that ticks with a period. It keeps its beat while its ticks are noticed soon enough; a
tick that is noticed too late starts a new beat. Time is counted in milliseconds. -/

namespace SessionGateway.Timer

/-- A tick that is noticed after this time is too late. -/
def tolerance : Nat := 5

/-- When the next tick is due after one that was due at `due` and is noticed at `now`. -/
def next (period due now : Nat) : Nat :=
  if due + tolerance < now then now + period else due + period

/-- The ticks that are due by `now`, by their number and at most `bound`, and when the one after
them is due. -/
def ticksUpTo (period now : Nat) : (bound : Nat) → (due : Nat) → Nat × Nat
  | 0, due => (0, due)
  | bound + 1, due =>
    if now < due then (0, due)
    else
      let (more, due) := ticksUpTo period now bound (next period due now)
      (more + 1, due)

/-- All ticks that are due by `now`, and when the one after them is due. The bound is no loss, since
a tick is either too late, and then the last one, or in time, as few can be at once. -/
def ticks (period due now : Nat) : Nat × Nat :=
  ticksUpTo period now (tolerance + 2) due

end SessionGateway.Timer
