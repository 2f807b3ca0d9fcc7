import SessionGateway.Persistence.WriteQueue
import SessionGateway.Proofs.Persistence.SessionStore

/-! What one attempt of a write can do. A write has an effect on the store, which shows in the
record of its own session only. An attempt that succeeds has the effect; one that fails changes
nothing, or it slips and has the effect all the same. -/

namespace SessionGateway

namespace Backend

/-- A later state of the same backend: more calls were made, and what becomes of the next ones was
decided before. -/
structure Later (b b' : Backend) : Prop where
  faults : b'.faults = b.faults
  slips : b'.slips = b.slips
  made : ∀ c, b.made c ≤ b'.made c

theorem Later.refl (b : Backend) : b.Later b :=
  ⟨rfl, rfl, fun _ => Nat.le_refl _⟩

theorem Later.trans {a b c : Backend} (h : a.Later b) (h' : b.Later c) : a.Later c :=
  ⟨h'.faults.trans h.faults, h'.slips.trans h.slips, fun d => Nat.le_trans (h.made d) (h'.made d)⟩

theorem later_count (b : Backend) (c : StoreCall) : b.Later (b.count c) := by
  refine ⟨rfl, rfl, fun d => ?_⟩
  unfold count
  dsimp only
  split <;> omega

/-- Some call to come that ends in this fault takes effect all the same. -/
def Slips (b : Backend) (f : StoreFault) : Prop :=
  ∃ c n, b.made c ≤ n ∧ b.faults c n = some f ∧ b.slips c n = true

/-- A call that returns an error leaves the store as it was. -/
def Honest (b : Backend) : Prop :=
  ∀ e, ¬ b.Slips (.error e)

/-- No call fails from now on. -/
def Healthy (b : Backend) : Prop :=
  ∀ c n, b.made c ≤ n → b.faults c n = none

theorem Later.slips_of {b b' : Backend} (h : b.Later b') {f : StoreFault} (slip : b'.Slips f) :
    b.Slips f := by
  obtain ⟨c, n, made, fault, slips⟩ := slip
  rw [h.faults] at fault
  rw [h.slips] at slips
  exact ⟨c, n, Nat.le_trans (h.made c) made, fault, slips⟩

theorem Later.honest {b b' : Backend} (h : b.Later b') (honest : b.Honest) : b'.Honest :=
  fun e slip => honest e (h.slips_of slip)

theorem Healthy.honest {b : Backend} (healthy : b.Healthy) : b.Honest := by
  intro e slip
  obtain ⟨c, n, made, fault, -⟩ := slip
  simp [healthy c n made] at fault

theorem Later.healthy {b b' : Backend} (h : b.Later b') (healthy : b.Healthy) : b'.Healthy := by
  intro c n made
  rw [h.faults]
  exact healthy c n (Nat.le_trans (h.made c) made)

theorem later_write (b : Backend) (c : StoreCall) (change : SessionStore → SessionStore) :
    b.Later (b.write c change).2 := by
  have counted := b.later_count c
  unfold write
  split <;> exact ⟨counted.faults, counted.slips, counted.made⟩

theorem store_of_write_done {b b' : Backend} {c : StoreCall} {change : SessionStore → SessionStore}
    (h : b.write c change = (.done (), b')) : b'.store = change b.store := by
  unfold write at h
  split at h
  · cases h
  · cases h
    rfl

theorem store_of_write_failed {b b' : Backend} {c : StoreCall}
    {change : SessionStore → SessionStore} {f : StoreFault}
    (h : b.write c change = (.failed f, b')) :
    b'.store = b.store ∨ b'.store = change b.store ∧ b.Slips f := by
  unfold write at h
  split at h
  · next g fault =>
    cases h
    by_cases slip : b.slips c (b.made c) = true
    · exact .inr ⟨by simp [slip], c, _, Nat.le_refl _, fault, slip⟩
    · exact .inl (by simp [slip])
  · cases h

theorem write_of_healthy {b : Backend} (healthy : b.Healthy) (c : StoreCall)
    (change : SessionStore → SessionStore) : (b.write c change).1 = .done () := by
  have fine : b.fault? c = none := healthy c _ (Nat.le_refl _)
  rw [write, fine]

theorem later_get (b : Backend) (u : Uuid) : b.Later (b.get u).2 := by
  unfold get
  split <;> exact b.later_count .get

@[simp] theorem store_get (b : Backend) (u : Uuid) : (b.get u).2.store = b.store := by
  unfold get
  split <;> rfl

theorem get_done {b : Backend} {u : Uuid} {x : Option SessionRecord}
    (h : (b.get u).1 = .done x) : b.store.get u = .ok x := by
  unfold get at h
  split at h
  · cases h
  · cases found : b.store.get u with
    | ok y =>
      rw [found] at h
      cases h
      rfl
    | error e =>
      rw [found] at h
      cases h

theorem get_of_healthy {b : Backend} (healthy : b.Healthy) {u : Uuid} {x : Option SessionRecord}
    (h : b.store.get u = .ok x) : (b.get u).1 = .done x := by
  have fine : b.fault? .get = none := healthy .get _ (Nat.le_refl _)
  rw [get, fine, h]
  rfl

@[simp] theorem store_range (b : Backend) : b.range.2.store = b.store := by
  unfold range
  split <;> rfl

theorem later_range (b : Backend) : b.Later b.range.2 := by
  unfold range
  split <;> exact b.later_count .range

end Backend

namespace WriteOp

def effect : WriteOp → SessionStore → SessionStore
  | put r, s => s.put r
  | delete u, s => s.delete u
  | flag u, s =>
    match s.get u with
    | .ok (some r) => s.put r.flagged
    | _ => s

/-- What a write makes of the answer to a read of its session. -/
def onRecord : WriteOp → SessionStore.Answer → SessionStore.Answer
  | put r, _ => .ok (some r.asWritten)
  | delete _, _ => .ok none
  | flag _, x => x.map (Option.map SessionRecord.flagged)

/-- A record that is written fits, and what will be read has the property. -/
def Carries (P : SessionRecord → Prop) : WriteOp → Prop
  | put r => r.Fits ∧ P r.asWritten
  | delete _ => True
  | flag _ => True

theorem Carries.mono {P Q : SessionRecord → Prop} {op : WriteOp} (h : op.Carries P)
    (mono : ∀ r, P r → Q r) : op.Carries Q := by
  cases op with
  | put r => exact ⟨h.1, mono _ h.2⟩
  | delete u => trivial
  | flag u => trivial

section effect

variable {P : SessionRecord → Prop} {s : SessionStore} {op : WriteOp}

theorem holds_effect (hs : s.Holds P) (h : op.Carries P) (flagged : ∀ r, P r → P r.flagged) :
    (op.effect s).Holds P := by
  cases op with
  | put r => exact hs.put h.1 h.2
  | delete u => exact hs.delete u
  | flag u =>
    rw [effect]
    split
    · next r found =>
      obtain ⟨fits, legible⟩ := SessionStore.fits_of_get found
      refine hs.put fits.flagged ?_
      rw [legible.flagged.asWritten]
      exact flagged r (hs.get found).2
    · exact hs

theorem get_effect (hs : s.Holds P) (h : op.Carries P) (u : Uuid) :
    (op.effect s).get u = if op.uuid = u then op.onRecord (s.get u) else s.get u := by
  cases op with
  | put r => exact SessionStore.get_put h.1 s u
  | delete v => exact SessionStore.get_delete s v u
  | flag v =>
    rw [effect]
    split
    · next r found =>
      obtain ⟨fits, legible⟩ := SessionStore.fits_of_get found
      have key := (hs.get found).1
      rw [SessionStore.get_put fits.flagged, legible.flagged.asWritten]
      change (if r.uuid = u then _ else _) = if v = u then _ else _
      rw [key]
      by_cases same : v = u
      · subst same
        simp [onRecord, found, Except.map]
      · simp [same]
    · next other =>
      by_cases same : v = u
      · subst same
        cases found : s.get v with
        | error e => simp [uuid, onRecord, Except.map]
        | ok x =>
          cases x with
          | none => simp [uuid, onRecord, Except.map]
          | some r => exact absurd found (other r)
      · simp [uuid, same]

theorem readable_effect (hs : s.Readable) (h : op.Carries P) : (op.effect s).Readable := by
  cases op with
  | put r => exact hs.put h.1
  | delete u => exact hs.delete u
  | flag u =>
    rw [effect]
    split
    · next r found => exact hs.put (SessionStore.fits_of_get found).1.flagged
    · exact hs

end effect

section apply

variable {b b' : Backend} {op : WriteOp}

theorem later_apply (b : Backend) (op : WriteOp) : b.Later (op.apply b).2 := by
  cases op with
  | put r => exact b.later_write _ _
  | delete u => exact b.later_write _ _
  | flag u =>
    have read := b.later_get u
    rw [apply]
    split
    · next found =>
      rw [found] at read
      exact read
    · next found =>
      rw [found] at read
      exact read
    · next r b' found =>
      rw [found] at read
      exact read.trans (b'.later_write _ _)

theorem store_of_apply_done (h : op.apply b = (.done (), b')) :
    b'.store = op.effect b.store := by
  cases op with
  | put r => exact Backend.store_of_write_done h
  | delete u => exact Backend.store_of_write_done h
  | flag u =>
    have same := b.store_get u
    rw [apply] at h
    split at h
    · cases h
    · next found =>
      rw [found] at same
      cases h
      have absent := Backend.get_done (congrArg Prod.fst found)
      simpa [effect, absent] using same
    · next r c found =>
      rw [found] at same
      have present := Backend.get_done (congrArg Prod.fst found)
      dsimp only at same
      simp [effect, present, Backend.store_of_write_done h, same]

theorem store_of_apply_failed {f : StoreFault} (h : op.apply b = (.failed f, b')) :
    b'.store = b.store ∨ b'.store = op.effect b.store ∧ b.Slips f := by
  cases op with
  | put r => exact Backend.store_of_write_failed h
  | delete u => exact Backend.store_of_write_failed h
  | flag u =>
    have same := b.store_get u
    have later := b.later_get u
    rw [apply] at h
    split at h
    · next found =>
      rw [found] at same
      cases h
      exact .inl same
    · cases h
    · next r c found =>
      rw [found] at same later
      have present := Backend.get_done (congrArg Prod.fst found)
      dsimp only at same later
      rcases Backend.store_of_write_failed h with kept | ⟨changed, slip⟩
      · exact .inl (kept.trans same)
      · exact .inr ⟨by simp [effect, present, changed, same], later.slips_of slip⟩

theorem apply_of_healthy (healthy : b.Healthy) (hs : b.store.Readable) (op : WriteOp) :
    (op.apply b).1 = .done () := by
  cases op with
  | put r => exact Backend.write_of_healthy healthy _ _
  | delete u => exact Backend.write_of_healthy healthy _ _
  | flag u =>
    obtain ⟨x, present⟩ := hs.get u
    have read := Backend.get_of_healthy healthy present
    have later := b.later_get u
    rw [apply]
    split
    · next found => simp [found] at read
    · rfl
    · next r c found =>
      rw [found] at later
      exact Backend.write_of_healthy (later.healthy healthy) _ _

end apply

end WriteOp

end SessionGateway
