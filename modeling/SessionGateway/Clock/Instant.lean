import SessionGateway.Clock.Span

/-! Points in time: a second of the calendar counted from 1970 and the nanoseconds into it. Past a
thousand million of them the second runs on through a leap second. Times end at the years -262143
and 262142, so adding a span may leave them. -/

namespace SessionGateway

def earliestSecond : Int := -8334601228800
def latestSecond : Int := 8210266876799

structure Instant where
  seconds : Int
  nanos : Nat
  inRange : earliestSecond ≤ seconds ∧ seconds ≤ latestSecond
  withinSecond : nanos < 2000000000
deriving DecidableEq

namespace Instant

def epoch : Instant := ⟨0, 0, by decide, by decide⟩

instance : Inhabited Instant := ⟨epoch⟩

def earliest : Instant := ⟨earliestSecond, 0, by decide, by decide⟩

def latest : Instant := ⟨latestSecond, 999999999, by decide, by decide⟩

instance : LE Instant :=
  ⟨fun a b => a.seconds < b.seconds ∨ (a.seconds = b.seconds ∧ a.nanos ≤ b.nanos)⟩

instance : LT Instant :=
  ⟨fun a b => a.seconds < b.seconds ∨ (a.seconds = b.seconds ∧ a.nanos < b.nanos)⟩

theorem le_iff (a b : Instant) :
    a ≤ b ↔ a.seconds < b.seconds ∨ (a.seconds = b.seconds ∧ a.nanos ≤ b.nanos) := Iff.rfl

theorem lt_iff (a b : Instant) :
    a < b ↔ a.seconds < b.seconds ∨ (a.seconds = b.seconds ∧ a.nanos < b.nanos) := Iff.rfl

instance (a b : Instant) : Decidable (a ≤ b) :=
  decidable_of_iff' _ (le_iff a b)

instance (a b : Instant) : Decidable (a < b) :=
  decidable_of_iff' _ (lt_iff a b)

theorem not_le (a b : Instant) : ¬ a ≤ b ↔ b < a := by
  rw [le_iff, lt_iff]; omega

theorem le_refl (a : Instant) : a ≤ a := by
  rw [le_iff]; omega

theorem le_trans {a b c : Instant} (h : a ≤ b) (h' : b ≤ c) : a ≤ c := by
  rw [le_iff] at *; omega

def ofParts? (seconds : Int) (nanos : Nat) : Option Instant :=
  if h : (earliestSecond ≤ seconds ∧ seconds ≤ latestSecond) ∧ nanos < 2000000000 then
    some ⟨seconds, nanos, h.1, h.2⟩
  else none

@[simp] theorem ofParts?_self (t : Instant) : ofParts? t.seconds t.nanos = some t := by
  rw [ofParts?, dif_pos ⟨t.inRange, t.withinSecond⟩]

/-- The instant of a timestamp. Only the last second of a minute can run on. -/
def ofTimestamp? (seconds : Int) (nanos : Nat) : Option Instant :=
  if nanos < 1000000000 ∨ seconds % 60 = 59 then ofParts? seconds nanos else none

/-- The instant that many nanoseconds after the epoch, leap seconds not counted. -/
def ofNanos? (total : Int) : Option Instant :=
  ofParts? (total / 1000000000) (total % 1000000000).toNat

/-- Time spent inside a leap second stays there as long as the span does not leave it; a span that
does counts on from the second before or after it. -/
def add? (t : Instant) (d : Span) : Option Instant :=
  if t.nanos < 1000000000 then ofNanos? (t.seconds * 1000000000 + t.nanos + d.nanos)
  else if 0 < d.wholeSeconds ∨ 2000000000 ≤ t.nanos + d.subsecond then
    ofNanos? (t.seconds * 1000000000 + t.nanos - 1000000000 + d.nanos)
  else if d.wholeSeconds < 0 then
    ofNanos? (t.seconds * 1000000000 + t.nanos + d.nanos)
  else ofParts? t.seconds (t.nanos + d.subsecond).toNat

end Instant

end SessionGateway
