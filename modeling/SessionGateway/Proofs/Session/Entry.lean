import SessionGateway.Session.Manager
import SessionGateway.Proofs.Persistence.Attempt
import SessionGateway.Proofs.Session.Cache

/-! One session, seen from outside and from the cache. What was done to it determines the record
that a plain table would have. An entry of the cache follows it: a cached session is that record, a
tombstone outlasts it, and a session that has left the cache without a tombstone is over. -/

namespace SessionGateway

inductive Deed where
  | issued (principal : Principal) (credential : List UInt8)
  | accessed
  | revoked

/-- The deeds done to one session and their times, the latest first. -/
abbrev Past := List (Instant × Deed)

namespace Past

def Revoked (past : Past) : Prop :=
  ∃ t, (t, Deed.revoked) ∈ past

def lastUse? : Past → Option Instant
  | [] => none
  | (t, .issued _ _) :: _ => some t
  | (t, .accessed) :: _ => some t
  | (_, .revoked) :: past => lastUse? past

/-- A session that was issued to the principal, was not revoked, and whose lifetime since its
latest use is not over. -/
structure InUse (past : Past) (ttl : Span) (p : Principal) (now : Instant) : Prop where
  issued : ∃ t c, (t, Deed.issued p c) ∈ past
  unrevoked : ¬ past.Revoked
  current : ∃ t e, past.lastUse? = some t ∧ t.add? ttl = some e ∧ now < e

variable {past : Past} {t : Instant} {d : Deed}

theorem Revoked.cons (h : past.Revoked) (t : Instant) (d : Deed) :
    Past.Revoked ((t, d) :: past) := by
  obtain ⟨a, ha⟩ := h
  exact ⟨a, List.mem_cons_of_mem _ ha⟩

@[simp] theorem not_revoked_nil : ¬ Past.Revoked [] := by
  simp [Revoked]

@[simp] theorem revoked_cons_issued {p : Principal} {c : List UInt8} :
    Past.Revoked ((t, .issued p c) :: past) ↔ past.Revoked := by
  simp [Revoked]

@[simp] theorem revoked_cons_accessed : Past.Revoked ((t, .accessed) :: past) ↔ past.Revoked := by
  simp [Revoked]

@[simp] theorem revoked_cons_revoked : Past.Revoked ((t, .revoked) :: past) :=
  ⟨t, List.mem_cons_self⟩

end Past

/-- What a run begins with, and the sources of principals that it may use. -/
structure Origin where
  settings : SessionSettings
  clock : Instant
  backend : Backend
  sources : (String → Option Principal) → Prop

namespace Origin

instance : Inhabited Origin := ⟨{}, .epoch, {}, fun _ => True⟩

/-- The store that is there at first has its records under their own identifiers, and they expire
like sessions that are in use now. -/
def Sound (o : Origin) : Prop :=
  o.backend.store.Holds fun r => r.expiresAt.Within o.clock o.settings.ttl

/-- A source gives out the principal of that name. -/
def Faithful (o : Origin) : Prop :=
  ∀ source, o.sources source → ∀ name p, source name = some p → p.user = name

/-- The end of a lifetime that begins at `t`, if the calendar goes that far. -/
def expiry (o : Origin) (t : Instant) : Instant :=
  (t.add? o.settings.ttl).getD t

/-- What a deed makes of the record of a session in a plain table. -/
def afterDeed (o : Origin) (u : Uuid) (t : Instant) :
    Deed → SessionStore.Answer → SessionStore.Answer
  | .issued p c, _ =>
    .ok (some {
      uuid := u, user := p.user, createdAt := t, lastAccess := t, expiresAt := o.expiry t,
      credential := c, invalidated := false })
  | .accessed, x => x.map (Option.map fun r => { r with lastAccess := t, expiresAt := o.expiry t })
  | .revoked, x => x

/-- The record of a session in a plain table that began as the store. -/
def record (o : Origin) (u : Uuid) : Past → SessionStore.Answer
  | [] => o.backend.store.get u
  | (t, d) :: past => o.afterDeed u t d (o.record u past)

theorem expiry_eq {o : Origin} {t e : Instant} (h : t.add? o.settings.ttl = some e) :
    o.expiry t = e := by
  rw [expiry, h]
  rfl

@[simp] theorem record_nil (o : Origin) (u : Uuid) :
    o.record u [] = o.backend.store.get u := rfl

@[simp] theorem record_cons_revoked (o : Origin) (u : Uuid) (t : Instant) (past : Past) :
    o.record u ((t, .revoked) :: past) = o.record u past := rfl

theorem record_cons_accessed {o : Origin} {u : Uuid} {past : Past} {l : SessionRecord}
    (h : o.record u past = .ok (some l)) (t : Instant) :
    o.record u ((t, .accessed) :: past) =
      .ok (some { l with lastAccess := t, expiresAt := o.expiry t }) := by
  rw [record, afterDeed, h]
  rfl

end Origin

theorem Origin.issued_of_record {o : Origin} {u : Uuid} {past : Past} {l : SessionRecord}
    (unused : o.backend.store.get u = .ok none) (h : o.record u past = .ok (some l)) :
    (∃ t p c, (t, Deed.issued p c) ∈ past) ∧ ∃ t, past.lastUse? = some t := by
  induction past generalizing l with
  | nil =>
    rw [record_nil, unused] at h
    cases h
  | cons done past ih =>
    obtain ⟨t, d⟩ := done
    cases d with
    | issued p c => exact ⟨⟨t, p, c, List.mem_cons_self⟩, t, rfl⟩
    | accessed =>
      rw [record, afterDeed] at h
      match before : o.record u past with
      | .error e => simp [before, Except.map] at h
      | .ok none => simp [before, Except.map] at h
      | .ok (some r) =>
        obtain ⟨⟨a, p, c, member⟩, -⟩ := ih before
        exact ⟨⟨a, p, c, List.mem_cons_of_mem _ member⟩, t, rfl⟩
    | revoked =>
      obtain ⟨⟨a, p, c, member⟩, last⟩ := ih h
      exact ⟨⟨a, p, c, List.mem_cons_of_mem _ member⟩, last⟩

theorem exists_boundedSeconds (n : UInt64) : ∃ k : Nat, boundedSeconds n = .ofSeconds k := by
  refine ⟨min n.toNat longestSeconds, ?_⟩
  rw [boundedSeconds]
  congr 1
  omega

namespace Session

theorem expiry_eq_ok {t e : Instant} {d : Span} :
    expiry t d = .ok e ↔ d.IsPositive ∧ t.add? d = some e := by
  unfold expiry
  split
  · next pos => cases t.add? d <;> simp [pos]
  · next neg => simp [neg]

theorem start_eq_ok {u : Uuid} {p : Principal} {c : List UInt8} {t : Instant} {d : Span}
    {x : Session} (h : start u p c t d = .ok x) :
    ∃ e, expiry t d = .ok e ∧ x = ⟨u, p, t, t, e, c, false⟩ := by
  unfold start at h
  cases made : expiry t d with
  | error err =>
    rw [made] at h
    cases h
  | ok e =>
    rw [made] at h
    cases h
    exact ⟨e, rfl, rfl⟩

theorem touch_eq_ok {x x' : Session} {t : Instant} {d : Span} (h : x.touch t d = .ok x') :
    ∃ e, expiry t d = .ok e ∧ x' = { x with lastAccess := t, expiresAt := e } := by
  unfold touch at h
  cases made : expiry t d with
  | error err =>
    rw [made] at h
    cases h
  | ok e =>
    rw [made] at h
    cases h
    exact ⟨e, rfl, rfl⟩

theorem touch_of_add? (x : Session) {t e : Instant} {d : Span} (positive : d.IsPositive)
    (sum : t.add? d = some e) : x.touch t d = .ok { x with lastAccess := t, expiresAt := e } := by
  rw [touch, expiry_eq_ok.mpr ⟨positive, sum⟩]
  rfl

end Session

namespace SessionSettings

variable {settings : SessionSettings} {t e : Instant}

theorem exists_of_expiry (granted : Session.expiry t settings.ttl = .ok e) :
    ∃ m : Nat, 0 < m ∧ settings.ttl = .ofSeconds m ∧ t.add? (.ofSeconds m) = some e := by
  obtain ⟨m, ttl⟩ := exists_boundedSeconds settings.ttlSecs
  obtain ⟨positive, sum⟩ := Session.expiry_eq_ok.mp granted
  rw [SessionSettings.ttl, ttl] at positive sum ⊢
  refine ⟨m, ?_, rfl, sum⟩
  change 0 < (m : Int) * 1000000000 at positive
  omega

theorem legible_of_expiry (granted : Session.expiry t settings.ttl = .ok e) : e.Legible := by
  obtain ⟨m, pos, -, sum⟩ := exists_of_expiry granted
  exact Instant.legible_of_add? pos sum

end SessionSettings

namespace Session

/-- A cached session is the record of the table, except for the flag and perhaps for the user. -/
structure Mirrors (o : Origin) (past : Past) (l : SessionRecord) (x : Session) : Prop where
  record : x.toRecord = { l with user := x.principal.user, invalidated := x.invalidated }
  fits : x.toRecord.Fits
  legible : x.expiresAt.Legible
  unflagged : l.invalidated = false
  flagged : x.invalidated = true ↔ past.Revoked
  issued : ∀ t p c, (t, Deed.issued p c) ∈ past → x.principal = p
  faithful : o.Faithful → x.principal.user = l.user

namespace Mirrors

variable {o : Origin} {past : Past} {l : SessionRecord} {x : Session}

theorem uuid (h : x.Mirrors o past l) : x.uuid = l.uuid :=
  congrArg SessionRecord.uuid h.record

theorem expiresAt (h : x.Mirrors o past l) : x.expiresAt = l.expiresAt :=
  congrArg SessionRecord.expiresAt h.record

theorem unrevoked_iff (h : x.Mirrors o past l) : x.invalidated = false ↔ ¬ past.Revoked := by
  rw [← h.flagged, Bool.not_eq_true]

end Mirrors

end Session

structure Entry where
  live : Option Session
  tombstone : Option Instant
  past : Past

structure Entry.Follows (o : Origin) (clock : Instant) (u : Uuid) (e : Entry) : Prop where
  used : ∀ t, e.past.lastUse? = some t →
    ∃ l, o.record u e.past = .ok (some l) ∧ t.add? o.settings.ttl = some l.expiresAt
  within : ∀ l, o.record u e.past = .ok (some l) → l.expiresAt.Within clock o.settings.ttl
  live : ∀ x, e.live = some x →
    ∃ l, o.record u e.past = .ok (some l) ∧ l.uuid = u ∧ x.Mirrors o e.past l
  tombstone : ∀ a, e.tombstone = some a → e.past.Revoked ∧ a.Advances clock ∧
    ∀ l, o.record u e.past = .ok (some l) → l.expiresAt.Within a o.settings.ttl
  ended : e.past ≠ [] → e.live = none → e.tombstone = none →
    ∀ l, o.record u e.past = .ok (some l) → l.expiresAt ≤ clock
  revoked : e.past.Revoked → e.tombstone = none → e.live = none

namespace Entry.Follows

variable {o : Origin} {clock : Instant} {u : Uuid} {e : Entry}

theorem free (h : e.Follows o clock u) (unrevoked : ¬ e.past.Revoked) : e.tombstone = none := by
  cases set : e.tombstone with
  | none => rfl
  | some a => exact absurd (h.tombstone a set).1 unrevoked

theorem tick (h : e.Follows o clock u) {t : Instant} (later : clock.Advances t) :
    e.Follows o t u := by
  obtain ⟨n, ttl⟩ := exists_boundedSeconds o.settings.ttlSecs
  refine ⟨h.used, fun l hl => ?_, h.live, fun a ha => ?_, fun named gone free l hl => ?_,
    h.revoked⟩
  · have within := h.within l hl
    rw [SessionSettings.ttl, ttl] at within ⊢
    exact within.mono (Instant.le_refl _) later (Nat.le_refl n)
  · obtain ⟨revoked, before, outlasts⟩ := h.tombstone a ha
    exact ⟨revoked, before.trans later, outlasts⟩
  · exact Instant.le_trans (h.ended named gone free l hl) later.le

theorem issue (h : e.Follows o clock u) (fresh : e.past = []) {p : Principal} {c : List UInt8}
    {x : Session} (started : Session.start u p c clock o.settings.ttl = .ok x)
    (fits : x.toRecord.Fits) :
    Follows o clock u { e with live := some x, past := (clock, .issued p c) :: e.past } := by
  obtain ⟨end_, granted, rfl⟩ := Session.start_eq_ok started
  have sum := (Session.expiry_eq_ok.mp granted).2
  have expiry := Origin.expiry_eq sum
  have free := h.free (by simp [fresh])
  refine ⟨fun t ht => ?_, fun l hl limit hlimit => ?_, fun y hy => ?_, fun a ha => ?_,
    fun _ gone => ?_, ?_⟩
  · obtain rfl := Option.some.inj ht
    exact ⟨_, rfl, expiry ▸ sum⟩
  · obtain rfl : _ = l := by simpa [Origin.record, Origin.afterDeed] using hl
    rw [sum] at hlimit
    obtain rfl := Option.some.inj hlimit
    simp [expiry, Instant.le_refl]
  · obtain rfl := Option.some.inj hy
    refine ⟨_, rfl, rfl, ?_, fits, SessionSettings.legible_of_expiry granted, rfl, by simp [fresh],
      fun t q k member => ?_, fun _ => rfl⟩
    · simp [Session.toRecord, expiry]
    · simp only [fresh, List.mem_singleton, Prod.mk.injEq, Deed.issued.injEq] at member
      exact member.2.1.symm
  · simp [free] at ha
  · cases gone
  · intro revoked
    simp [fresh] at revoked

theorem past_eq_nil (h : e.Follows o clock u) (gone : e.live = none) (free : e.tombstone = none)
    {l : SessionRecord} (hl : o.record u e.past = .ok (some l)) (future : clock < l.expiresAt) :
    e.past = [] := by
  cases named : e.past with
  | nil => rfl
  | cons d past =>
    have ended := h.ended (by simp [named]) gone free l hl
    rw [← Instant.not_le] at future
    exact absurd ended future

theorem load (h : e.Follows o clock u) (fresh : e.past = []) {r : SessionRecord}
    (stored : o.backend.store.get u = .ok (some r)) (key : r.uuid = u)
    (unflagged : r.invalidated = false) {p : Principal}
    (fits : (Session.ofRecord r p).toRecord.Fits) (user : o.Faithful → p.user = r.user) :
    Follows o clock u { e with live := some (.ofRecord r p) } := by
  refine ⟨h.used, h.within, fun y hy => ?_, h.tombstone, fun _ gone => ?_, ?_⟩
  · obtain rfl := Option.some.inj hy
    refine ⟨r, ?_, key, rfl, fits, (SessionStore.fits_of_get stored).2.expiresAt, unflagged, ?_, ?_,
      user⟩
    · simp [fresh, stored]
    · simp [fresh, Session.ofRecord, unflagged]
    · simp [fresh]
  · cases gone
  · intro revoked
    simp [fresh] at revoked

theorem access (h : e.Follows o clock u) {x x' : Session} (cached : e.live = some x)
    (unflagged : x.invalidated = false) (touched : x.touch clock o.settings.ttl = .ok x') :
    Follows o clock u { e with live := some x', past := (clock, .accessed) :: e.past } := by
  obtain ⟨end_, granted, rfl⟩ := Session.touch_eq_ok touched
  have sum := (Session.expiry_eq_ok.mp granted).2
  have expiry := Origin.expiry_eq sum
  obtain ⟨l, hl, key, mirrors⟩ := h.live x cached
  have record := Origin.record_cons_accessed hl clock
  have unrevoked := mirrors.unrevoked_iff.mp unflagged
  have free := h.free unrevoked
  refine ⟨fun t ht => ?_, fun m hm limit hlimit => ?_, fun y hy => ?_, fun a ha => ?_,
    fun _ gone => ?_, ?_⟩
  · obtain rfl := Option.some.inj ht
    exact ⟨_, record, expiry ▸ sum⟩
  · obtain rfl : _ = m := by simpa [record] using hm
    rw [sum] at hlimit
    obtain rfl := Option.some.inj hlimit
    simp [expiry, Instant.le_refl]
  · obtain rfl := Option.some.inj hy
    refine ⟨_, record, key, ?_, ⟨mirrors.fits.1, mirrors.fits.2⟩,
      SessionSettings.legible_of_expiry granted, mirrors.unflagged,
      by simpa using mirrors.flagged,
      fun t p c member => mirrors.issued t p c (by simpa using member), mirrors.faithful⟩
    have same := mirrors.record
    simp only [Session.toRecord, SessionRecord.mk.injEq] at same ⊢
    simp [same, expiry]
  · simp [free] at ha
  · cases gone
  · intro revoked
    simp [unrevoked] at revoked

theorem revoke (h : e.Follows o clock u) :
    Follows o clock u
      { live := e.live.map Session.invalidate, tombstone := some clock,
        past := (clock, .revoked) :: e.past } := by
  refine ⟨h.used, h.within, fun y hy => ?_, fun a ha => ?_, fun _ _ set => ?_, fun _ set => ?_⟩
  · obtain ⟨x, cached, rfl⟩ := Option.map_eq_some_iff.mp hy
    obtain ⟨l, hl, key, mirrors⟩ := h.live x cached
    refine ⟨l, hl, key, ?_, ⟨mirrors.fits.1, mirrors.fits.2⟩, mirrors.legible, mirrors.unflagged,
      by simp [Session.invalidate],
      fun t p c member => mirrors.issued t p c (by simpa using member), mirrors.faithful⟩
    have same := mirrors.record
    simp only [Session.toRecord, Session.invalidate, SessionRecord.mk.injEq] at same ⊢
    simp [same]
  · obtain rfl := Option.some.inj ha
    exact ⟨Past.revoked_cons_revoked, .refl _, h.within⟩
  · cases set
  · cases set

theorem revokeAgain (h : e.Follows o clock u) {a : Instant} (set : e.tombstone = some a) :
    Follows o clock u { e with past := (clock, .revoked) :: e.past } := by
  obtain ⟨revoked, before, outlasts⟩ := h.tombstone a set
  refine ⟨h.used, h.within, fun x cached => ?_, fun b hb => ?_, fun _ _ free => ?_,
    fun _ free => ?_⟩
  · obtain ⟨l, hl, key, mirrors⟩ := h.live x cached
    refine ⟨l, hl, key, mirrors.record, mirrors.fits, mirrors.legible, mirrors.unflagged, ?_,
      fun t p c member => mirrors.issued t p c (by simpa using member), mirrors.faithful⟩
    simp [mirrors.flagged, revoked]
  · exact ⟨revoked.cons _ _, (h.tombstone b hb).2⟩
  · simp [set] at free
  · simp [set] at free

theorem sweep (h : e.Follows o clock u) {c c' : SessionCache}
    (swept : c.Swept clock o.settings.grace (o.settings.ttl + o.settings.grace) c')
    (live : e.live = c.get? u) (tombstone : e.tombstone = c.revoked[u]?) :
    Follows o clock u ⟨c'.get? u, c'.revoked[u]?, e.past⟩ := by
  -- The grace holds a tombstone back until its session is over, wherever that is stored.
  obtain ⟨n, ttl⟩ := exists_boundedSeconds o.settings.ttlSecs
  obtain ⟨g, grace⟩ := exists_boundedSeconds o.settings.sweepGraceSecs
  rw [SessionSettings.ttl, SessionSettings.grace, ttl, grace, Span.ofSeconds_add] at swept
  refine ⟨h.used, h.within, fun x cached => ?_, fun a set => ?_, fun named gone free l hl => ?_,
    fun revoked free => ?_⟩
  · exact h.live x (live ▸ swept.live u x cached)
  · exact h.tombstone a (tombstone ▸ swept.revoked u a set)
  · cases before : e.tombstone with
    | some a =>
      obtain ⟨-, -, outlasts⟩ := h.tombstone a before
      obtain ⟨⟨limit, sum, past⟩, -⟩ := swept.forgotten u a (tombstone ▸ before) free
      have within := outlasts l hl
      rw [SessionSettings.ttl, ttl] at within
      have longer := within.mono (m := n + g) (Instant.le_refl _) (.refl a) (by omega)
      exact Instant.le_trans (longer limit (by simpa using sum)) (Instant.le_of_lt past)
    | none =>
      cases cached : e.live with
      | none => exact h.ended named cached before l hl
      | some x =>
        obtain ⟨m, hm, -, mirrors⟩ := h.live x cached
        rw [hl] at hm
        cases hm
        rcases swept.evicted u x (live ▸ cached) gone with flagged | ⟨limit, sum, past⟩
        · have := h.revoked (mirrors.flagged.mp flagged) before
          simp [cached] at this
        · rw [mirrors.expiresAt] at sum
          exact Instant.le_trans (Instant.le_add? sum) (Instant.le_of_lt past)
  · cases before : e.tombstone with
    | none =>
      have gone := h.revoked revoked before
      cases cached : c'.get? u with
      | none => rfl
      | some x =>
        rw [live, swept.live u x cached] at gone
        cases gone
    | some a =>
      obtain ⟨-, unflagged⟩ := swept.forgotten u a (tombstone ▸ before) free
      cases cached : c'.get? u with
      | none => rfl
      | some x =>
        obtain ⟨l, -, -, mirrors⟩ := h.live x (live ▸ swept.live u x cached)
        exact absurd revoked (mirrors.unrevoked_iff.mp (unflagged u x cached))

end Entry.Follows

end SessionGateway
