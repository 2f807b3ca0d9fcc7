import SessionGateway.Session.Cache
import SessionGateway.Proofs.Clock.Instant

/-! What the operations on the cache change. A sweep only removes: flagged sessions, sessions that
expired before the grace, and tombstones older than the age. Once it removes a tombstone no flagged
session is left. -/

namespace SessionGateway

namespace SessionCache

/-- Each session is cached under its own identifier. -/
def Keyed (c : SessionCache) : Prop :=
  ∀ u s, c.get? u = some s → s.uuid = u

section basic

variable (c : SessionCache) (u : Uuid) (s : Session) (t : Instant)

theorem get?_insert : (c.insert s).get? u = if s.uuid = u then some s else c.get? u := by
  simp [get?, insert, Std.ExtTreeMap.getElem?_insert]

@[simp] theorem revoked_insert : (c.insert s).revoked = c.revoked := rfl

theorem isRevoked_eq_true : c.isRevoked u = true ↔ ∃ t, c.revoked[u]? = some t := by
  rw [isRevoked, Std.ExtTreeMap.contains_eq_isSome_getElem?, Option.isSome_iff_exists]

theorem isRevoked_eq_false : c.isRevoked u = false ↔ c.revoked[u]? = none := by
  rw [isRevoked, Std.ExtTreeMap.contains_eq_isSome_getElem?, Option.isSome_eq_false_iff,
    Option.isNone_iff_eq_none]

theorem revoke?_eq_none : c.revoke? u t = none ↔ c.isRevoked u = true := by
  unfold revoke?
  split <;> simp_all

variable {c s} {P : Uuid → Session → Prop}

theorem forall_insert (h : ∀ v x, c.get? v = some x → P v x) (new : P s.uuid s) :
    ∀ v x, (c.insert s).get? v = some x → P v x := by
  intro v x found
  rw [get?_insert] at found
  split at found
  · next same =>
    cases found
    exact same ▸ new
  · exact h v x found

end basic

section bury

def bury (c : SessionCache) (u : Uuid) (t : Instant) : SessionCache :=
  let buried := { c with revoked := c.revoked.insert u t }
  (c.get? u).elim buried fun s => buried.insert s.invalidate

variable {c : SessionCache} {u : Uuid}

theorem get?_bury (key : ∀ s, c.get? u = some s → s.uuid = u) (t : Instant) (v : Uuid) :
    (c.bury u t).get? v = if u = v then (c.get? u).map Session.invalidate else c.get? v := by
  unfold bury
  cases cached : c.get? u with
  | none =>
    change c.get? v = _
    by_cases same : u = v
    · simp [← same, cached]
    · simp [same]
  | some s =>
    have mine : s.invalidate.uuid = u := key s cached
    simp only [Option.elim_some, get?_insert, mine]
    rfl

theorem forall_bury {P : Uuid → Session → Prop} (key : ∀ s, c.get? u = some s → s.uuid = u)
    (h : ∀ v x, c.get? v = some x → P v x) (flagged : ∀ x, P u x → P u x.invalidate) (t : Instant) :
    ∀ v x, (c.bury u t).get? v = some x → P v x := by
  intro v x found
  rw [get?_bury key] at found
  split at found
  · next same =>
    subst same
    obtain ⟨x', cached, rfl⟩ := Option.map_eq_some_iff.mp found
    exact flagged x' (h u x' cached)
  · exact h v x found

theorem revoked_bury (c : SessionCache) (u : Uuid) (t : Instant) (v : Uuid) :
    (c.bury u t).revoked[v]? = if u = v then some t else c.revoked[v]? := by
  unfold bury
  cases c.get? u <;> simp [Std.ExtTreeMap.getElem?_insert]

theorem revoked_bury_of_free (free : c.revoked[u]? = none) {v : Uuid} {a : Instant}
    (set : c.revoked[v]? = some a) (t : Instant) : (c.bury u t).revoked[v]? = some a := by
  rw [revoked_bury, if_neg, set]
  rintro rfl
  rw [free] at set
  cases set

end bury

section sweep

theorem lasts_eq_ok {t now : Instant} {d : Span} {b : Bool} (h : lasts t d now = .ok b) :
    ∃ e, t.add? d = some e ∧ b = decide (now ≤ e) := by
  unfold lasts laterBy at h
  cases ht : t.add? d with
  | none =>
    rw [ht] at h
    cases h
  | some e =>
    rw [ht] at h
    cases h
    exact ⟨e, rfl, rfl⟩

theorem stays_eq_false {x : Except Crash Bool} : stays x = false ↔ x = .ok false := by
  cases x <;> simp [stays]

theorem ended_of_not_stays {t now : Instant} {d : Span} (ended : stays (lasts t d now) = false) :
    ∃ e, t.add? d = some e ∧ e < now := by
  obtain ⟨e, sum, late⟩ := lasts_eq_ok (stays_eq_false.mp ended)
  exact ⟨e, sum, (Instant.not_le now e).mp (decide_eq_false_iff_not.mp late.symm)⟩

structure Swept (now : Instant) (grace age : Span) (c c' : SessionCache) : Prop where
  live : ∀ u s, c'.get? u = some s → c.get? u = some s
  evicted : ∀ u s, c.get? u = some s → c'.get? u = none →
    s.invalidated = true ∨ ∃ e, s.expiresAt.add? grace = some e ∧ e < now
  revoked : ∀ (u : Uuid) t, c'.revoked[u]? = some t → c.revoked[u]? = some t
  forgotten : ∀ (u : Uuid) t, c.revoked[u]? = some t → c'.revoked[u]? = none →
    (∃ e, t.add? age = some e ∧ e < now) ∧ ∀ v s, c'.get? v = some s → s.invalidated = false

variable (now : Instant) (grace age : Span) (c : SessionCache)

theorem getElem?_keptLive (reached : Uuid → Bool) (u : Uuid) :
    (c.keptLive now grace reached)[u]? =
      (c.get? u).filter fun s => !reached u || stays (staysLive s grace now) := by
  rw [keptLive, Std.ExtTreeMap.getElem?_filter', get?]

theorem getElem?_keptRevoked (reached : Uuid → Bool) (u : Uuid) :
    (c.keptRevoked now age reached)[u]? =
      c.revoked[u]?.filter fun t => !reached u || stays (lasts t age now) := by
  rw [keptRevoked, Std.ExtTreeMap.getElem?_filter']

section kept

variable {now : Instant} {grace age : Span} {c : SessionCache} {reached : Uuid → Bool} {u : Uuid}
  {s : Session} {t : Instant}

theorem get?_of_keptLive (left : (c.keptLive now grace reached)[u]? = some s) :
    c.get? u = some s := by
  rw [getElem?_keptLive, Option.filter_eq_some_iff] at left
  exact left.1

theorem evicted_of_keptLive (h : c.get? u = some s)
    (gone : (c.keptLive now grace reached)[u]? = none) :
    s.invalidated = true ∨ ∃ e, s.expiresAt.add? grace = some e ∧ e < now := by
  rw [getElem?_keptLive, h] at gone
  obtain ⟨-, ended⟩ : reached u = true ∧ stays (staysLive s grace now) = false := by
    simpa using gone
  cases flagged : s.invalidated with
  | true => exact .inl rfl
  | false => exact .inr (ended_of_not_stays (by simpa [staysLive, flagged] using ended))

theorem unflagged_of_keptLive (left : (c.keptLive now grace fun _ => true)[u]? = some s) :
    s.invalidated = false := by
  rw [getElem?_keptLive, Option.filter_eq_some_iff] at left
  cases flagged : s.invalidated with
  | false => rfl
  | true => simp [staysLive, stays, flagged] at left

theorem revoked_of_keptRevoked (left : (c.keptRevoked now age reached)[u]? = some t) :
    c.revoked[u]? = some t := by
  rw [getElem?_keptRevoked, Option.filter_eq_some_iff] at left
  exact left.1

theorem ended_of_keptRevoked (h : c.revoked[u]? = some t)
    (gone : (c.keptRevoked now age reached)[u]? = none) : ∃ e, t.add? age = some e ∧ e < now := by
  rw [getElem?_keptRevoked, h] at gone
  obtain ⟨-, ended⟩ : reached u = true ∧ stays (lasts t age now) = false := by simpa using gone
  exact ended_of_not_stays ended

end kept

theorem swept_kept (reached : Uuid → Bool) :
    Swept now grace age c
      ⟨c.keptLive now grace fun _ => true, c.keptRevoked now age reached⟩ :=
  ⟨fun _ _ => get?_of_keptLive, fun _ _ => evicted_of_keptLive, fun _ _ => revoked_of_keptRevoked,
    fun _ _ h gone => ⟨ended_of_keptRevoked h gone, fun _ _ => unflagged_of_keptLive⟩⟩

theorem swept (reached : Uuid → Bool) :
    Swept now grace age c (c.sweep now grace age reached).2 := by
  -- All sessions are checked before the first tombstone is.
  unfold sweep
  split
  · refine ⟨fun _ _ => get?_of_keptLive, fun _ _ => evicted_of_keptLive, fun _ _ h => h,
      fun u t h gone => ?_⟩
    rw [h] at gone
    cases gone
  · dsimp only
    split
    · exact swept_kept now grace age c reached
    · exact swept_kept now grace age c fun _ => true

end sweep

end SessionCache

end SessionGateway
