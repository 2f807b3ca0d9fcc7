import SessionGateway.Proofs.Persistence.Enqueue
import SessionGateway.Proofs.Session.Entry
import SessionGateway.Proofs.Session.Manager

/-! The moves that the calls on a manager and the steps of its worker are made of, and what holds
after every move: each entry of the cache follows the table, and no record anywhere, stored or
still to be written, outlasts the one in the table. -/

namespace SessionGateway

structure Event where
  uuid : Uuid
  time : Instant
  deed : Deed

/-- What was done to the sessions, the latest first. -/
abbrev History := List Event

namespace History

def of (h : History) (u : Uuid) : Past :=
  (h.filter (·.uuid = u)).map fun e => (e.time, e.deed)

theorem of_cons_self (h : History) (u : Uuid) (t : Instant) (d : Deed) :
    of (⟨u, t, d⟩ :: h) u = (t, d) :: h.of u := by
  simp [of]

theorem of_cons_of_ne {u v : Uuid} (ne : u ≠ v) (h : History) (t : Instant) (d : Deed) :
    of (⟨u, t, d⟩ :: h) v = h.of v := by
  simp [of, ne]

theorem mem_of {h : History} {u : Uuid} {t : Instant} {d : Deed} :
    (t, d) ∈ h.of u ↔ ⟨u, t, d⟩ ∈ h := by
  simp only [of, List.mem_map, List.mem_filter, decide_eq_true_eq, Prod.mk.injEq]
  constructor
  · rintro ⟨e, ⟨member, rfl⟩, rfl, rfl⟩
    exact member
  · intro member
    exact ⟨_, ⟨member, rfl⟩, rfl, rfl⟩

variable {h : History} {u : Uuid}

theorem of_append (new h : History) (u : Uuid) : (new ++ h).of u = new.of u ++ h.of u := by
  simp [of]

theorem of_append_ne_nil (new : History) (named : h.of u ≠ []) : (new ++ h).of u ≠ [] := by
  rw [of_append]
  exact List.append_ne_nil_of_right_ne_nil _ named

theorem revoked_append (new : History) (revoked : (h.of u).Revoked) :
    ((new ++ h).of u).Revoked := by
  obtain ⟨t, member⟩ := revoked
  exact ⟨t, of_append new h u ▸ List.mem_append_right _ member⟩

end History

/-- The table has a record of the session, and this one does not outlast it. -/
def Origin.Knows (o : Origin) (h : History) (r : SessionRecord) : Prop :=
  ∃ l, o.record r.uuid (h.of r.uuid) = .ok (some l) ∧ r.expiresAt ≤ l.expiresAt

theorem Origin.Knows.flagged {o : Origin} {h : History} {r : SessionRecord} (known : o.Knows h r) :
    o.Knows h r.flagged :=
  known

/-- A manager with its backend, the time of the latest call, and what was done so far. -/
structure Stage where
  manager : SessionManager
  backend : Backend
  clock : Instant
  history : History

namespace Stage

abbrev cache (s : Stage) : SessionCache := s.manager.cache

abbrev queue (s : Stage) : WriteQueue := s.manager.writes.queue

def entry (s : Stage) (u : Uuid) : Entry :=
  ⟨s.cache.get? u, s.cache.revoked[u]?, s.history.of u⟩

def withCache (s : Stage) (c : SessionCache) : Stage :=
  { s with manager.cache := c }

def withQueue (s : Stage) (q : WriteQueue) (b : Backend) : Stage :=
  { s with manager.writes.queue := q, backend := b }

def note (s : Stage) (u : Uuid) (d : Deed) : Stage :=
  { s with history := ⟨u, s.clock, d⟩ :: s.history }

/-- A deed done to a session, with its effect on the cache and the write that it asks for. -/
def act (s : Stage) (c : SessionCache) (op : WriteOp) (u : Uuid) (d : Deed) : Stage :=
  ((s.withCache c).withQueue (s.queue.enqueue op).2 s.backend).note u d

/-- What a stage can turn into. The time of a call is set first. -/
inductive Move (o : Origin) (s : Stage) : Stage → Prop
  | tick {t : Instant} (later : s.clock.Advances t) : Move o s { s with clock := t }
  | read {b : Backend} (later : s.backend.Later b) (same : b.store = s.backend.store) :
    Move o s { s with backend := b }
  | worker {q : WriteQueue} {b : Backend} (worked : s.queue.Worked s.backend q b)
    (settles : s.queue.Settles s.backend q b) : Move o s (s.withQueue q b)
  | issue {u : Uuid} {p : Principal} {c : List UInt8} {x : Session} (fresh : s.history.of u = [])
    (unused : o.backend.store.get u = .ok none)
    (started : Session.start u p c s.clock o.settings.ttl = .ok x) (fits : x.toRecord.Fits) :
    Move o s (s.act (s.cache.insert x) (.put x.toRecord) u (.issued p c))
  | load {u : Uuid} {r : SessionRecord} {p : Principal} {source : String → Option Principal}
    (gone : s.cache.get? u = none) (free : s.cache.revoked[u]? = none)
    (stored : s.backend.store.get u = .ok (some r)) (unflagged : r.invalidated = false)
    (future : s.clock < r.expiresAt) (used : o.sources source) (found : source r.user = some p)
    (fits : p.user.utf8ByteSize < 2 ^ 64) : Move o s (s.withCache (s.cache.insert (.ofRecord r p)))
  | access {u : Uuid} {x x' : Session} (cached : s.cache.get? u = some x)
    (unflagged : x.invalidated = false) (touched : x.touch s.clock o.settings.ttl = .ok x') :
    Move o s (s.act (s.cache.insert x') (.put x'.toRecord) u .accessed)
  | revoke {u : Uuid} (free : s.cache.revoked[u]? = none) :
    Move o s (s.act (s.cache.bury u s.clock)
      (s.manager.invalidation u (s.cache.get? u)) u .revoked)
  | revokeAgain {u : Uuid} {a : Instant} (set : s.cache.revoked[u]? = some a) :
    Move o s (s.note u .revoked)
  | sweep {c : SessionCache} (swept : s.cache.Swept s.clock o.settings.grace
      (o.settings.ttl + o.settings.grace) c) : Move o s (s.withCache c)

structure Coherent (o : Origin) (s : Stage) : Prop where
  settings : s.manager.settings = o.settings
  later : o.backend.Later s.backend
  entries : ∀ u, (s.entry u).Follows o s.clock u
  stored : s.backend.store.Holds (o.Knows s.history)
  pending : ∀ op ∈ s.queue.pending, op.Carries (o.Knows s.history)
  untouched : ∀ u, s.history.of u = [] →
    s.backend.store.get u = o.backend.store.get u ∧ ∀ op ∈ s.queue.pending, op.uuid ≠ u

theorem mem_pending_act {s : Stage} {c : SessionCache} {op op' : WriteOp} {u : Uuid} {d : Deed}
    (member : op' ∈ (s.act c op u d).queue.pending) : op' ∈ s.queue.pending ∨ op' = op := by
  change op' ∈ (s.queue.enqueue op).2.pending at member
  rw [WriteQueue.pending_enqueue] at member
  split at member
  · simpa using member
  · exact .inl member

section Coherent

variable {o : Origin} {s : Stage}

theorem Coherent.start (sound : o.Sound) {m : SessionManager}
    (started : SessionManager.start o.settings = .ok m) :
    Coherent o ⟨m, o.backend, o.clock, []⟩ := by
  obtain rfl := SessionManager.start_eq_ok started
  have idle : (SessionManager.ofSettings o.settings).writes.queue.pending = [] := rfl
  refine ⟨rfl, .refl _, fun u => ?_, ?_, by simp [idle], fun u _ => ⟨rfl, by simp [idle]⟩⟩
  · refine ⟨by simp [entry, History.of, Past.lastUse?], fun l hl => (sound.get hl).2,
      fun x cached => ?_, fun a set => ?_, ?_, ?_⟩
    · simp [entry, SessionManager.ofSettings, SessionCache.get?] at cached
    · simp [entry, SessionManager.ofSettings] at set
    · exact fun named => absurd rfl named
    · exact fun revoked => absurd revoked Past.not_revoked_nil
  · intro key bs r found read
    obtain ⟨mine, -⟩ := sound key bs r found read
    exact ⟨mine, r, SessionStore.get_eq_ok_some.mpr ⟨bs, mine ▸ found, read⟩, Instant.le_refl _⟩

namespace Coherent

theorem key (h : Coherent o s) {u : Uuid} {x : Session} (cached : s.cache.get? u = some x) :
    x.uuid = u := by
  obtain ⟨l, -, key, mirrors⟩ := (h.entries u).live x cached
  exact mirrors.uuid.trans key

theorem tick (h : Coherent o s) {t : Instant} (later : s.clock.Advances t) :
    Coherent o { s with clock := t } :=
  ⟨h.settings, h.later, fun u => (h.entries u).tick later, h.stored, h.pending, h.untouched⟩

theorem worker (h : Coherent o s) {q : WriteQueue} {b : Backend}
    (worked : s.queue.Worked s.backend q b) : Coherent o (s.withQueue q b) := by
  refine ⟨h.settings, h.later.trans worked.later, h.entries, ?_, ?_, fun u fresh => ?_⟩
  · refine worked.store (SessionStore.Holds _) (fun op member store hs => ?_) h.stored
    exact WriteOp.holds_effect hs (h.pending op member) fun r known => known.flagged
  · exact fun op member => h.pending op (worked.pending.subset member)
  · obtain ⟨same, others⟩ := h.untouched u fresh
    refine ⟨?_, fun op member => others op (worked.pending.subset member)⟩
    -- Along with the answer, that the records are known has to be kept.
    refine (worked.store (fun store => store.Holds (o.Knows s.history) ∧
      store.get u = o.backend.store.get u) (fun op member store hs => ?_) ⟨h.stored, same⟩).2
    refine ⟨WriteOp.holds_effect hs.1 (h.pending op member) fun r known => known.flagged, ?_⟩
    rw [WriteOp.get_effect hs.1 (h.pending op member), if_neg (others op member)]
    exact hs.2

theorem read (h : Coherent o s) {b : Backend} (later : s.backend.Later b)
    (same : b.store = s.backend.store) : Coherent o { s with backend := b } :=
  ⟨h.settings, h.later.trans later, h.entries, same ▸ h.stored, h.pending, same ▸ h.untouched⟩

theorem withCache (h : Coherent o s) {c : SessionCache}
    (follows : ∀ u, Entry.Follows o s.clock u ⟨c.get? u, c.revoked[u]?, s.history.of u⟩) :
    Coherent o (s.withCache c) :=
  ⟨h.settings, h.later, follows, h.stored, h.pending, h.untouched⟩

theorem sweep (h : Coherent o s) {c : SessionCache} (swept : s.cache.Swept s.clock
    o.settings.grace (o.settings.ttl + o.settings.grace) c) : Coherent o (s.withCache c) :=
  h.withCache fun u => (h.entries u).sweep swept rfl rfl

theorem fresh_of_load (h : Coherent o s) {u : Uuid} {r : SessionRecord}
    (gone : s.cache.get? u = none) (free : s.cache.revoked[u]? = none)
    (stored : s.backend.store.get u = .ok (some r)) (future : s.clock < r.expiresAt) :
    r.uuid = u ∧ s.history.of u = [] ∧ o.backend.store.get u = .ok (some r) := by
  -- A deed would have left it in the cache, under a tombstone, or over by now.
  obtain ⟨key, l, hl, earlier⟩ := h.stored.get stored
  rw [key] at hl
  have fresh := (h.entries u).past_eq_nil gone free hl (Instant.lt_of_lt_of_le future earlier)
  exact ⟨key, fresh, (h.untouched u fresh).1 ▸ stored⟩

theorem load (h : Coherent o s) {u : Uuid} {r : SessionRecord} {p : Principal}
    {source : String → Option Principal} (gone : s.cache.get? u = none)
    (free : s.cache.revoked[u]? = none) (stored : s.backend.store.get u = .ok (some r))
    (unflagged : r.invalidated = false) (future : s.clock < r.expiresAt)
    (used : o.sources source) (found : source r.user = some p)
    (fits : p.user.utf8ByteSize < 2 ^ 64) :
    Coherent o (s.withCache (s.cache.insert (.ofRecord r p))) := by
  obtain ⟨key, fresh, original⟩ := h.fresh_of_load gone free stored future
  have loaded := (h.entries u).load fresh original key unflagged (p := p)
    ⟨fits, (SessionStore.fits_of_get stored).1.credential⟩ fun faithful =>
      faithful source used r.user p found
  refine h.withCache fun v => ?_
  have mine : (Session.ofRecord r p).uuid = u := key
  rw [SessionCache.get?_insert, mine, SessionCache.revoked_insert]
  by_cases same : u = v
  · subst same
    rw [if_pos rfl]
    exact loaded
  · rw [if_neg same]
    exact h.entries v

theorem knows_note {u : Uuid} {d : Deed}
    (kept : ∀ l, o.record u (s.history.of u) = .ok (some l) →
      ∃ l', o.record u ((s.clock, d) :: s.history.of u) = .ok (some l') ∧
        l.expiresAt ≤ l'.expiresAt) {r : SessionRecord} (known : o.Knows s.history r) :
    o.Knows (s.note u d).history r := by
  obtain ⟨l, hl, earlier⟩ := known
  by_cases same : u = r.uuid
  · subst same
    obtain ⟨l', hl', later⟩ := kept l hl
    refine ⟨l', ?_, Instant.le_trans earlier later⟩
    rw [note, History.of_cons_self]
    exact hl'
  · refine ⟨l, ?_, earlier⟩
    rw [note, History.of_cons_of_ne same]
    exact hl

theorem revokeAgain (h : Coherent o s) {u : Uuid} {a : Instant}
    (set : s.cache.revoked[u]? = some a) : Coherent o (s.note u .revoked) := by
  have known {r : SessionRecord} : o.Knows s.history r → o.Knows (s.note u .revoked).history r :=
    knows_note (d := .revoked) fun l hl => ⟨l, hl, Instant.le_refl _⟩
  refine ⟨h.settings, h.later, fun v => ?_, h.stored.mono fun r => known,
    fun op member => (h.pending op member).mono fun r => known, fun v fresh => ?_⟩
  · by_cases same : u = v
    · subst same
      rw [entry, note, History.of_cons_self]
      exact (h.entries u).revokeAgain set
    · rw [entry, note, History.of_cons_of_ne same]
      exact h.entries v
  · by_cases same : u = v
    · subst same
      rw [note, History.of_cons_self] at fresh
      cases fresh
    · rw [note, History.of_cons_of_ne same] at fresh
      exact h.untouched v fresh

theorem act (h : Coherent o s) {c : SessionCache} {op : WriteOp} {u : Uuid} {d : Deed}
    (mine : op.uuid = u)
    (others : ∀ v, u ≠ v → c.get? v = s.cache.get? v ∧ c.revoked[v]? = s.cache.revoked[v]?)
    (follows : Entry.Follows o s.clock u
      ⟨c.get? u, c.revoked[u]?, (s.clock, d) :: s.history.of u⟩)
    (kept : ∀ l, o.record u (s.history.of u) = .ok (some l) →
      ∃ l', o.record u ((s.clock, d) :: s.history.of u) = .ok (some l') ∧
        l.expiresAt ≤ l'.expiresAt)
    (written : ∀ r, op = .put r → ∃ x, c.get? u = some x ∧ r = x.toRecord) :
    Coherent o (s.act c op u d) := by
  have known {r : SessionRecord} : o.Knows s.history r → o.Knows (s.act c op u d).history r :=
    knows_note kept
  have carries : op.Carries (o.Knows (s.act c op u d).history) := by
    cases op with
    | put r =>
      obtain ⟨x, cached, rfl⟩ := written r rfl
      obtain ⟨l, hl, key, mirrors⟩ := follows.live x cached
      refine ⟨mirrors.fits, l, ?_, ?_⟩
      · change x.uuid = u at mine
        change o.record x.uuid (History.of _ x.uuid) = _
        rw [mine, Stage.act, note, History.of_cons_self]
        exact hl
      · change x.expiresAt.asWritten ≤ l.expiresAt
        rw [mirrors.legible.asWritten, mirrors.expiresAt]
        exact Instant.le_refl _
    | delete v => trivial
    | flag v => trivial
  refine ⟨h.settings, h.later, fun v => ?_, h.stored.mono fun r => known, fun op' member => ?_,
    fun v fresh => ?_⟩
  · by_cases same : u = v
    · subst same
      rw [entry, Stage.act, note, History.of_cons_self]
      exact follows
    · rw [entry, Stage.act, note, History.of_cons_of_ne same]
      change Entry.Follows o s.clock v ⟨c.get? v, c.revoked[v]?, _⟩
      rw [(others v same).1, (others v same).2]
      exact h.entries v
  · rcases mem_pending_act member with old | rfl
    · exact (h.pending op' old).mono fun r => known
    · exact carries
  · by_cases same : u = v
    · subst same
      rw [Stage.act, note, History.of_cons_self] at fresh
      cases fresh
    · rw [Stage.act, note, History.of_cons_of_ne same] at fresh
      obtain ⟨original, free⟩ := h.untouched v fresh
      refine ⟨original, fun op' member => ?_⟩
      rcases mem_pending_act member with old | rfl
      · exact free op' old
      · exact fun other => same (mine ▸ other)

theorem issue (h : Coherent o s) {u : Uuid} {p : Principal} {c : List UInt8} {x : Session}
    (fresh : s.history.of u = []) (unused : o.backend.store.get u = .ok none)
    (started : Session.start u p c s.clock o.settings.ttl = .ok x) (fits : x.toRecord.Fits) :
    Coherent o (s.act (s.cache.insert x) (.put x.toRecord) u (.issued p c)) := by
  have mine : x.uuid = u := by
    obtain ⟨e, -, rfl⟩ := Session.start_eq_ok started
    rfl
  have cached : (s.cache.insert x).get? u = some x := by rw [SessionCache.get?_insert, if_pos mine]
  refine h.act mine (fun v other => ⟨?_, rfl⟩) ?_ (fun l hl => ?_) ?_
  · rw [SessionCache.get?_insert, mine, if_neg other]
  · rw [cached]
    exact (h.entries u).issue fresh started fits
  · simp [fresh, unused] at hl
  · rintro r ⟨⟩
    exact ⟨x, cached, rfl⟩

theorem access (h : Coherent o s) {u : Uuid} {x x' : Session} (cached : s.cache.get? u = some x)
    (unflagged : x.invalidated = false) (touched : x.touch s.clock o.settings.ttl = .ok x') :
    Coherent o (s.act (s.cache.insert x') (.put x'.toRecord) u .accessed) := by
  obtain ⟨e, granted, touch⟩ := Session.touch_eq_ok touched
  have before := h.key cached
  have mine : x'.uuid = u := by
    rw [touch]
    exact before
  have cached' : (s.cache.insert x').get? u = some x' := by
    rw [SessionCache.get?_insert, if_pos mine]
  refine h.act mine (fun v other => ⟨?_, rfl⟩) ?_ (fun l hl => ?_) ?_
  · rw [SessionCache.get?_insert, mine, if_neg other]
  · rw [cached']
    exact (h.entries u).access cached unflagged touched
  · refine ⟨_, Origin.record_cons_accessed hl s.clock, ?_⟩
    have sum := (Session.expiry_eq_ok.mp granted).2
    rw [Origin.expiry_eq sum]
    exact (h.entries u).within l hl e sum
  · rintro r ⟨⟩
    exact ⟨x', cached', rfl⟩

theorem revoke (h : Coherent o s) (u : Uuid) :
    Coherent o (s.act (s.cache.bury u s.clock)
      (s.manager.invalidation u (s.cache.get? u)) u .revoked) := by
  have key : ∀ x, s.cache.get? u = some x → x.uuid = u := fun x => h.key
  have live := SessionCache.get?_bury key s.clock
  have revoked := SessionCache.revoked_bury s.cache u s.clock
  refine h.act ?_ (fun v other => ?_) ?_ (fun l hl => ⟨l, hl, Instant.le_refl _⟩) fun r put => ?_
  · rcases s.manager.invalidation_cases u with asked | asked | ⟨x, cached, asked⟩
    · rw [asked]
      rfl
    · rw [asked]
      rfl
    · rw [asked]
      exact key x cached
  · rw [live, revoked, if_neg other, if_neg other]
    exact ⟨rfl, rfl⟩
  · rw [live, revoked, if_pos rfl, if_pos rfl]
    exact (h.entries u).revoke
  · rw [live, if_pos rfl]
    rcases s.manager.invalidation_cases u with asked | asked | ⟨x, cached, asked⟩
    · cases asked.symm.trans put
    · cases asked.symm.trans put
    · cases asked.symm.trans put
      exact ⟨x.invalidate, by rw [cached]; rfl, rfl⟩

theorem move (h : Coherent o s) {s' : Stage} (m : Move o s s') : Coherent o s' := by
  cases m with
  | tick later => exact h.tick later
  | read later same => exact h.read later same
  | worker worked _ => exact h.worker worked
  | issue fresh unused started fits => exact h.issue fresh unused started fits
  | load gone free stored unflagged future used found fits =>
    exact h.load gone free stored unflagged future used found fits
  | access cached unflagged touched => exact h.access cached unflagged touched
  | revoke _ => exact h.revoke _
  | revokeAgain set => exact h.revokeAgain set
  | sweep swept => exact h.sweep swept

end Coherent

end Coherent

end Stage

end SessionGateway
