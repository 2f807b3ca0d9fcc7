import SessionGateway.Clock.Instant

/-! The order of times and the addition of whole seconds. A time inside a leap second is later than
the second before it, but a span counts on from that second, so a later reading of the clock can
lead to an earlier end. `Advances` excludes this: the clock does not go back, with leap seconds
counted or not. What is written of a time is only the time itself if it is `Legible`. -/

namespace SessionGateway

@[simp] theorem Span.ofSeconds_add (m n : Int) :
    Span.ofSeconds m + Span.ofSeconds n = Span.ofSeconds (m + n) := by
  change Span.mk _ = Span.mk _
  simp only [ofSeconds]
  congr 1
  omega

@[simp] theorem Span.subsecond_ofSeconds (n : Int) : (Span.ofSeconds n).subsecond = 0 := by
  simp [ofSeconds, subsecond]

@[simp] theorem Span.nanos_ofSeconds (n : Int) : (Span.ofSeconds n).nanos = n * 1000000000 := rfl

namespace Instant

theorem lt_of_lt_of_le {a b c : Instant} (h : a < b) (h' : b ≤ c) : a < c := by
  rw [lt_iff] at *
  rw [le_iff] at h'
  omega

theorem le_of_lt {a b : Instant} (h : a < b) : a ≤ b := by
  rw [lt_iff] at h
  rw [le_iff]
  omega

/-- Nanoseconds since the epoch, leap seconds not counted. -/
def count (t : Instant) : Int :=
  t.seconds * 1000000000 + (t.nanos % 1000000000 : Nat)

structure Advances (a b : Instant) : Prop where
  le : a ≤ b
  count : a.count ≤ b.count

theorem Advances.refl (a : Instant) : a.Advances a :=
  ⟨le_refl a, Int.le_refl _⟩

theorem Advances.trans {a b c : Instant} (h : a.Advances b) (h' : b.Advances c) : a.Advances c :=
  ⟨le_trans h.le h'.le, Int.le_trans h.count h'.count⟩

theorem Advances.of_le {a b : Instant} (h : a ≤ b) (outside : b.nanos < 1000000000) :
    a.Advances b := by
  refine ⟨h, ?_⟩
  have := a.withinSecond
  rw [le_iff] at h
  unfold Instant.count
  omega

theorem ofParts?_eq_some {seconds : Int} {nanos : Nat} {t : Instant}
    (h : ofParts? seconds nanos = some t) : t.seconds = seconds ∧ t.nanos = nanos := by
  unfold ofParts? at h
  split at h
  · cases h
    exact ⟨rfl, rfl⟩
  · cases h

theorem ofNanos?_eq_some {total : Int} {t : Instant} (h : ofNanos? total = some t) :
    t.count = total ∧ t.nanos < 1000000000 := by
  unfold ofNanos? ofParts? at h
  split at h
  · cases h
    refine ⟨?_, ?_⟩ <;> simp only [count] <;> omega
  · cases h

theorem ofNanos?_isSome {total : Int} (low : earliestSecond * 1000000000 ≤ total)
    (high : total < (latestSecond + 1) * 1000000000) : ∃ t, ofNanos? total = some t := by
  have inRange : earliestSecond ≤ total / 1000000000 ∧ total / 1000000000 ≤ latestSecond := by
    omega
  unfold ofNanos? ofParts?
  rw [dif_pos ⟨inRange, by omega⟩]
  exact ⟨_, rfl⟩

def Legible (t : Instant) : Prop :=
  t.nanos < 1000000000 ∨ t.seconds % 60 = 59

instance (t : Instant) : Decidable t.Legible :=
  inferInstanceAs (Decidable (_ ∨ _))

/-- The time that is written for `t`: if need be, the same place in the next second. -/
def asWritten (t : Instant) : Instant :=
  if legible : t.Legible then t
  else ⟨t.seconds + 1, t.nanos - 1000000000, by
    have := t.inRange
    unfold Legible at legible
    unfold earliestSecond latestSecond at *
    omega, by
    have := t.withinSecond
    omega⟩

theorem Legible.asWritten {t : Instant} (h : t.Legible) : t.asWritten = t :=
  dif_pos h

theorem asWritten_of_not_legible {t : Instant} (h : ¬ t.Legible) :
    t.asWritten.seconds = t.seconds + 1 ∧ t.asWritten.nanos = t.nanos - 1000000000 := by
  rw [Instant.asWritten, dif_neg h]
  exact ⟨rfl, rfl⟩

theorem legible_asWritten (t : Instant) : t.asWritten.Legible := by
  by_cases h : t.Legible
  · rw [h.asWritten]
    exact h
  · have := t.withinSecond
    rw [Legible, (asWritten_of_not_legible h).2]
    omega

theorem asWritten_eq_self_iff {t : Instant} : t.asWritten = t ↔ t.Legible :=
  ⟨fun h => h ▸ t.legible_asWritten, Legible.asWritten⟩

theorem count_bounds (t : Instant) :
    earliestSecond * 1000000000 ≤ t.count ∧ t.count < (latestSecond + 1) * 1000000000 := by
  have := t.inRange
  unfold count
  omega

theorem le_of_count_le {a b : Instant} (ha : a.nanos < 1000000000) (h : a.count ≤ b.count) :
    a ≤ b := by
  have := b.withinSecond
  rw [le_iff]
  unfold count at h
  omega

theorem add?_zero (t : Instant) : t.add? (.ofSeconds 0) = some t := by
  have bound := t.withinSecond
  have inRange := t.inRange
  unfold add?
  split
  · next h =>
    have seconds : (t.seconds * 1000000000 + t.nanos) / 1000000000 = t.seconds := by omega
    have nanos : ((t.nanos : Int) % 1000000000).toNat = t.nanos := by omega
    simp [ofNanos?, seconds, nanos]
  · have short : ¬ (2000000000 : Int) ≤ t.nanos := by omega
    simp [short]

theorem add?_of_pos (t : Instant) {n : Nat} (h : 0 < n) :
    t.add? (.ofSeconds n) = ofNanos? (t.count + n * 1000000000) := by
  have bound := t.withinSecond
  unfold add?
  split
  · next low =>
    rw [count, Nat.mod_eq_of_lt low]
    simp
  · next high =>
    have rest : ((t.nanos % 1000000000 : Nat) : Int) = t.nanos - 1000000000 := by omega
    rw [if_pos (.inl (by simpa using h)), count, rest]
    congr 1
    simp only [Span.nanos_ofSeconds]
    omega

section add?

variable {a b e e' : Instant} {m n : Nat}

theorem legible_of_add? (pos : 0 < n) (h : a.add? (.ofSeconds n) = some e) : e.Legible := by
  rw [add?_of_pos a pos] at h
  exact .inl (ofNanos?_eq_some h).2

theorem le_add? (h : a.add? (.ofSeconds n) = some e) : a ≤ e := by
  cases n with
  | zero =>
    rw [show ((0 : Nat) : Int) = 0 from rfl, add?_zero] at h
    cases h
    exact le_refl a
  | succ n =>
    rw [add?_of_pos a n.succ_pos] at h
    obtain ⟨total, low⟩ := ofNanos?_eq_some h
    have := a.withinSecond
    rw [le_iff]
    unfold count at total
    omega

theorem add?_mono (clock : a.Advances b) (span : n ≤ m) (h : a.add? (.ofSeconds n) = some e)
    (h' : b.add? (.ofSeconds m) = some e') : e ≤ e' := by
  -- No time at all does not lead out of a leap second, any other span does.
  cases n with
  | zero =>
    rw [show ((0 : Nat) : Int) = 0 from rfl, add?_zero] at h
    cases h
    exact le_trans clock.le (le_add? h')
  | succ n =>
    rw [add?_of_pos a n.succ_pos] at h
    rw [add?_of_pos b (by omega)] at h'
    obtain ⟨total, low⟩ := ofNanos?_eq_some h
    obtain ⟨total', -⟩ := ofNanos?_eq_some h'
    have := clock.count
    exact le_of_count_le low (by omega)

theorem add?_isSome_of_later (clock : a.Advances b) (span : n ≤ m)
    (h : b.add? (.ofSeconds m) = some e) : ∃ e', a.add? (.ofSeconds n) = some e' := by
  cases n with
  | zero => exact ⟨a, add?_zero a⟩
  | succ n =>
    rw [add?_of_pos b (by omega)] at h
    rw [add?_of_pos a n.succ_pos]
    obtain ⟨total, -⟩ := ofNanos?_eq_some h
    have low := a.count_bounds
    have high := e.count_bounds
    have := clock.count
    exact ofNanos?_isSome (by omega) (by omega)

end add?

/-- What expires then does so before a lifetime that begins at `t` ends. -/
def Within (e t : Instant) (d : Span) : Prop :=
  ∀ limit, t.add? d = some limit → e ≤ limit

theorem Within.mono {e e' a b : Instant} {m n : Nat} (h : e.Within a (.ofSeconds n))
    (earlier : e' ≤ e) (clock : a.Advances b) (span : n ≤ m) : e'.Within b (.ofSeconds m) := by
  intro limit hb
  obtain ⟨limit', ha⟩ := add?_isSome_of_later clock span hb
  exact le_trans (le_trans earlier (h limit' ha)) (add?_mono clock span ha hb)

end Instant

end SessionGateway
