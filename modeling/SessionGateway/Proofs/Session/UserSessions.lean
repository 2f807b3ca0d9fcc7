import SessionGateway.Proofs.Session.Repetition

/-! The invalidation of all sessions of a user. It goes through what is cached and what the store
can show, takes every session once, and passes over those that have a tombstone. -/

namespace SessionGateway

theorem SessionCache.mem_sessionsOf {c : SessionCache} {user : String} {u : Uuid} :
    u ∈ c.sessionsOf user ↔ ∃ x, c.get? u = some x ∧ x.principal.user = user := by
  simp [sessionsOf, get?, Std.ExtTreeMap.mem_toList_iff_getElem?_eq_some]

theorem SessionStore.mem_active {P : SessionRecord → Prop} {s : SessionStore} (hs : s.Holds P)
    {r : SessionRecord} :
    r ∈ s.active ↔ s.get r.uuid = .ok (some r) ∧ r.invalidated = false := by
  refine ⟨hs.active, fun ⟨found, unflagged⟩ => ?_⟩
  obtain ⟨bs, entry, read⟩ := get_eq_ok_some.mp found
  refine List.mem_filterMap.mpr
    ⟨(r.uuid.bytes, bs), Std.ExtTreeMap.mem_toList_iff_getElem?_eq_some.mpr entry, ?_⟩
  simp [read, unflagged]

namespace Backend

/-- A scan that succeeds shows all records that can be used. -/
def Scans (b : Backend) : Prop :=
  ∃ records, b.range.1 = .done records

theorem range_done {b : Backend} {records : List SessionRecord}
    (h : b.range.1 = .done records) : records = b.store.active := by
  unfold range at h
  split at h
  · cases h
  · cases h
    rfl

end Backend

namespace SessionManager

section sorted

theorem mem_foldl_insert {us : List Uuid} {set : Std.ExtTreeMap Uuid Unit} {u : Uuid} :
    u ∈ us.foldl (fun (set : Std.ExtTreeMap Uuid Unit) u => set.insert u ()) set ↔
      u ∈ us ∨ u ∈ set := by
  induction us generalizing set with
  | nil => simp
  | cons v us ih =>
    rw [List.foldl_cons, ih, Std.ExtTreeMap.mem_insert, List.mem_cons,
      Std.LawfulEqCmp.compare_eq_iff_eq, eq_comm (a := v), or_left_comm, or_assoc]

theorem mem_sortedUuids {us : List Uuid} {u : Uuid} : u ∈ sortedUuids us ↔ u ∈ us := by
  simp [sortedUuids, mem_foldl_insert]

theorem nodup_sortedUuids (us : List Uuid) : (sortedUuids us).Nodup := by
  have distinct := (us.foldl (fun (set : Std.ExtTreeMap Uuid Unit) u => set.insert u ())
    ∅).distinct_keys
  refine distinct.imp fun other same => other ?_
  exact Std.LawfulEqCmp.compare_eq_iff_eq.mpr same

end sorted

def invalidations (m : SessionManager) (us : List Uuid) : List WriteOp :=
  us.map fun u => m.invalidation u (m.cache.get? u)

/-- The sessions, none of which had a tombstone, were invalidated one after another. Nothing else
was touched. -/
structure Revokes (now : Instant) (us : List Uuid) (m m' : SessionManager) : Prop where
  settings : m'.settings = m.settings
  live : ∀ u, m'.cache.get? u =
    if u ∈ us then (m.cache.get? u).map Session.invalidate else m.cache.get? u
  tombstones : ∀ u : Uuid, m'.cache.revoked[u]? = if u ∈ us then some now else m.cache.revoked[u]?
  writes : m'.writes = { m.writes with
    queue := (m.invalidations us).foldl (fun q op => (q.enqueue op).2) m.writes.queue }

section revokes

variable {m m' : SessionManager} {now : Instant} {u : Uuid} {us : List Uuid}

theorem invalidation_congr (settings : m'.settings = m.settings) (u : Uuid) (x : Option Session) :
    m'.invalidation u x = m.invalidation u x := by
  cases x <;> simp only [invalidation, settings]

theorem Revokes.nil (now : Instant) (m : SessionManager) : Revokes now [] m m :=
  ⟨rfl, fun _ => rfl, fun _ => rfl, rfl⟩

theorem revokes_invalidate (keyed : m.cache.Keyed) (free : m.cache.isRevoked u = false)
    (now : Instant) : Revokes now [u] m (m.invalidate now u).2 := by
  rw [invalidate_of_free free]
  refine ⟨rfl, fun v => ?_, fun v => ?_, rfl⟩
  · by_cases same : v = u
    · subst same
      simp [offer, SessionCache.get?_bury (keyed v)]
    · simp [offer, SessionCache.get?_bury (keyed u), same, Ne.symm same]
  · by_cases same : v = u
    · subst same
      simp [offer, SessionCache.revoked_bury]
    · simp [offer, SessionCache.revoked_bury, same, Ne.symm same]

theorem Revokes.append {vs : List Uuid} {m'' : SessionManager} (h : Revokes now us m m')
    (h' : Revokes now vs m' m'') (apart : ∀ u ∈ vs, u ∉ us) :
    Revokes now (us ++ vs) m m'' := by
  refine ⟨h'.settings.trans h.settings, fun v => ?_, fun v => ?_, ?_⟩
  · rw [h'.live, h.live]
    by_cases member : v ∈ vs
    · simp [member, apart v member]
    · simp [member]
  · rw [h'.tombstones, h.tombstones]
    by_cases member : v ∈ vs
    · simp [member]
    · simp [member]
  · -- What is asked for a session depends on nothing that was done to the others.
    have asked : m'.invalidations vs = m.invalidations vs := by
      refine List.map_congr_left fun v member => ?_
      rw [h.live, if_neg (apart v member), invalidation_congr h.settings]
    rw [h'.writes, h.writes, asked, ← List.foldl_append, invalidations, invalidations,
      ← List.map_append]
    rfl

theorem Revokes.isRevoked (h : Revokes now us m m') (v : Uuid) :
    m'.cache.isRevoked v = (decide (v ∈ us) || m.cache.isRevoked v) := by
  rw [SessionCache.isRevoked, SessionCache.isRevoked, Std.ExtTreeMap.contains_eq_isSome_getElem?,
    Std.ExtTreeMap.contains_eq_isSome_getElem?, h.tombstones]
  by_cases member : v ∈ us
  · simp [member]
  · simp [member]

theorem revokes_invalidateAll (keyed : m.cache.Keyed) (now : Instant) (distinct : us.Nodup) :
    let fresh := us.filter fun u => !m.cache.isRevoked u
    (m.invalidateAll now us).1 = fresh.length ∧ Revokes now fresh m (m.invalidateAll now us).2 := by
  induction us generalizing m with
  | nil => exact ⟨rfl, .nil now m⟩
  | cons u us ih =>
    obtain ⟨other, distinct⟩ := List.nodup_cons.mp distinct
    cases revoked : m.cache.isRevoked u with
    | true =>
      simp only [invalidateAll, invalidate_of_revoked revoked, List.filter_cons, revoked]
      exact ih keyed distinct
    | false =>
      have first := revokes_invalidate keyed revoked now
      obtain ⟨count, rest⟩ := ih ((m.keeps_invalidate now u).keyed keyed) distinct
      -- The first one is the only one whose tombstone is new.
      have same : us.filter (fun v => !(m.invalidate now u).2.cache.isRevoked v) =
          us.filter fun v => !m.cache.isRevoked v := by
        refine List.filter_congr fun v member => ?_
        have ne : v ≠ u := fun same => other (same ▸ member)
        simp [first.isRevoked, ne]
      rw [same] at count rest
      have fresh : (m.invalidate now u).1 = true := by rw [invalidate_of_free revoked]
      simp only [invalidateAll, List.filter_cons, revoked, fresh, count]
      refine ⟨rfl, first.append rest fun v member => ?_⟩
      rw [List.mem_singleton]
      rintro rfl
      exact other (List.mem_filter.mp member).1

end revokes

section user

variable {m m' : SessionManager} {b : Backend} {user : String} {u : Uuid} {us : List Uuid}
  {now : Instant}

/-- The session is cached for the user, or a scan of the store shows a usable record of it. -/
def Belongs (m : SessionManager) (b : Backend) (user : String) (u : Uuid) : Prop :=
  (∃ x, m.cache.get? u = some x ∧ x.principal.user = user) ∨
    b.Scans ∧ ∃ r, b.store.get u = .ok (some r) ∧ r.invalidated = false ∧ r.user = user

/-- The session is one of the user's and has no tombstone yet. -/
def Reaches (m : SessionManager) (b : Backend) (user : String) (u : Uuid) : Prop :=
  m.cache.isRevoked u = false ∧ m.Belongs b user u

theorem mem_reached {P : SessionRecord → Prop} (stored : b.store.Holds P)
    (ends : ∀ text, b.range.1 ≠ .failed (.crash text)) :
    u ∈ m.reached b user ↔ m.Belongs b user u := by
  unfold reached Belongs Backend.Scans
  match scan : b.range.1 with
  | .failed (.crash text) => exact absurd scan (ends text)
  | .failed (.error e) => simp [mem_sortedUuids, SessionCache.mem_sessionsOf]
  | .done records =>
    obtain rfl := Backend.range_done scan
    simp only [mem_sortedUuids, List.mem_append, SessionCache.mem_sessionsOf, List.mem_map,
      List.mem_filter, decide_eq_true_eq, SessionStore.mem_active stored, Reply.done.injEq,
      exists_eq', true_and]
    refine or_congr_right ⟨?_, ?_⟩
    · rintro ⟨r, ⟨⟨found, unflagged⟩, mine⟩, rfl⟩
      exact ⟨r, found, unflagged, mine⟩
    · rintro ⟨r, found, unflagged, mine⟩
      obtain rfl := (stored.get found).1
      exact ⟨r, ⟨⟨found, unflagged⟩, mine⟩, rfl⟩

theorem nodup_reached : (m.reached b user).Nodup := by
  unfold reached
  split
  · exact .nil
  · exact nodup_sortedUuids _
  · exact nodup_sortedUuids _

theorem revokes_invalidateUser {P : SessionRecord → Prop} (keyed : m.cache.Keyed)
    (stored : b.store.Holds P) (ends : ∀ text, b.range.1 ≠ .failed (.crash text)) (now : Instant)
    (user : String) : ∃ us : List Uuid, us.Nodup ∧ (∀ u, u ∈ us ↔ m.Reaches b user u) ∧
      ∃ m', m.invalidateUser now b user = (.ok us.length, m', b.range.2) ∧ m.Revokes now us m' := by
  have distinct : (m.reached b user).Nodup := nodup_reached
  obtain ⟨count, revokes⟩ := revokes_invalidateAll keyed now distinct
  rcases m.invalidateUser_cases now b user with ⟨text, crash, -⟩ | ⟨-, done⟩
  · exact absurd crash (ends text)
  · refine ⟨_, distinct.filter _, fun u => ?_, _, ?_, revokes⟩
    · rw [List.mem_filter, mem_reached stored ends, Reaches, Bool.not_eq_true', and_comm]
    · rw [done, count]

theorem invalidateAll_of_revoked (revoked : ∀ u ∈ us, m.cache.isRevoked u = true)
    (now : Instant) : m.invalidateAll now us = (0, m) := by
  induction us with
  | nil => rfl
  | cons u us ih =>
    obtain ⟨first, rest⟩ := List.forall_mem_cons.mp revoked
    simp only [invalidateAll, invalidate_of_revoked first, ih rest]
    rfl

theorem Revokes.belongs (h : Revokes now us m m') {b' : Backend} (same : b'.store = b.store)
    (scans : b'.Scans → b.Scans) (mine : m'.Belongs b' user u) : m.Belongs b user u := by
  -- A cached session stays its user's; a stored one was shown before, as that scan succeeded too.
  rcases mine with ⟨x, cached, mine⟩ | ⟨scan, r, found, usable⟩
  · rw [h.live] at cached
    split at cached
    · obtain ⟨x, before, rfl⟩ := Option.map_eq_some_iff.mp cached
      exact .inl ⟨x, before, mine⟩
    · exact .inl ⟨x, cached, mine⟩
  · exact .inr ⟨scans scan, r, same ▸ found, usable⟩

theorem invalidateUser_again {P : SessionRecord → Prop} (stored : b.store.Holds P)
    (reaches : ∀ u, u ∈ us ↔ m.Reaches b user u) (h : Revokes now us m m') {b' : Backend}
    (same : b'.store = b.store) (scans : b'.Scans → b.Scans)
    (ends : ∀ text, b'.range.1 ≠ .failed (.crash text)) (later : Instant) :
    m'.invalidateUser later b' user = (.ok 0, m', b'.range.2) := by
  have revoked : ∀ u ∈ m'.reached b' user, m'.cache.isRevoked u = true := by
    intro u member
    have mine := h.belongs same scans ((mem_reached (same ▸ stored) ends).mp member)
    rw [h.isRevoked]
    cases free : m.cache.isRevoked u with
    | true => simp
    | false => simp [(reaches u).mpr ⟨free, mine⟩]
  rcases m'.invalidateUser_cases later b' user with ⟨text, crash, -⟩ | ⟨-, done⟩
  · exact absurd crash (ends text)
  · rw [done, invalidateAll_of_revoked revoked]

end user

end SessionManager

/-- A token of the session is answered that the session is invalidated, whatever calls come before
and whatever is stored, unless a sweep has taken the tombstone set at `a` away. -/
def Stage.Refuses (s : Stage) (u : Uuid) (a : Instant) : Prop :=
  ∀ cs ctx b token claims, ctx.issuer.validate token = .ok claims → claims.sid = u →
    ((s.afterAll cs).manager.resolve ctx b token).1 = .error (.invalidated u) ∨ s.Forgotten u a cs

theorem Stage.refuses {s : Stage} {u : Uuid} {a : Instant} (set : s.cache.revoked[u]? = some a) :
    s.Refuses u a := by
  rintro cs ctx b token claims valid rfl
  refine (tombstone_afterAll set cs).imp_left fun kept => ?_
  have revoked := ((s.afterAll cs).cache.isRevoked_eq_true claims.sid).mpr ⟨a, kept⟩
  rw [SessionManager.resolve_of_revoked valid revoked]

theorem SessionManager.keyed_of_start {settings : SessionSettings} {m : SessionManager}
    (started : SessionManager.start settings = .ok m) : m.cache.Keyed := by
  obtain rfl := SessionManager.start_eq_ok started
  intro u x cached
  simp [SessionManager.ofSettings, SessionCache.get?] at cached

/-- From the start on, whatever the calls, sessions are cached under their own identifiers. -/
theorem Stage.keyed_afterAll {s : Stage} (keyed : s.cache.Keyed) (cs : List Call) :
    (s.afterAll cs).cache.Keyed := by
  induction cs generalizing s with
  | nil => exact keyed
  | cons c cs ih => exact ih (keyed_after keyed c)

/-- The invalidation of a user's sessions reaches those that are cached or, if the store can be
scanned, stored, and that have no tombstone; each of them once, and nothing else. If the scan
crashes nothing is done. A second one right away finds nothing to do; only a store that could not be
scanned the first time may still have sessions to show. -/
theorem Stage.invalidateUser_reaches {s : Stage} (keyed : s.cache.Keyed) {b : Backend}
    (stored : b.store.Holds fun _ => True) (now : Instant) (user : String) :
    let m := s.manager
    let after := m.invalidateUser now b user
    after.2.2.store = b.store ∧
      (∀ text, b.range.1 = .failed (.crash text) →
        after.1 = .error (.storeUnavailable (poolCrash text)) ∧ after.2.1 = m) ∧
      ((∀ text, b.range.1 ≠ .failed (.crash text)) →
        ∃ us : List Uuid, us.Nodup ∧ (∀ u, u ∈ us ↔ m.Reaches b user u) ∧
          after.1 = .ok us.length ∧ m.Revokes now us after.2.1 ∧
          (∀ u ∈ us, m.invalidation u (m.cache.get? u) = .delete u ∨
            m.invalidation u (m.cache.get? u) = .flag u ∨
            ∃ x, m.cache.get? u = some x ∧
              m.invalidation u (m.cache.get? u) = .put x.invalidate.toRecord) ∧
          (∀ u ∈ us, { s with manager := after.2.1, backend := after.2.2 }.Refuses u now) ∧
          ((after.2.2.Scans → b.Scans) → (∀ text, after.2.2.range.1 ≠ .failed (.crash text)) →
            ∀ later, after.2.1.invalidateUser later after.2.2 user =
              (.ok 0, after.2.1, after.2.2.range.2))) := by
  intro m after
  rcases m.invalidateUser_cases now b user with ⟨text, crash, failed⟩ | ⟨ends, -⟩
  · have failed : after = _ := failed
    rw [failed]
    refine ⟨b.store_range, fun text' crash' => ?_, fun ends => absurd crash (ends text)⟩
    cases crash.symm.trans crash'
    exact ⟨rfl, rfl⟩
  · obtain ⟨us, distinct, reaches, m', done, revokes⟩ :=
      SessionManager.revokes_invalidateUser keyed stored ends now user
    have done : after = _ := done
    rw [done]
    refine ⟨b.store_range, fun text crash => absurd crash (ends text), fun _ => ?_⟩
    refine ⟨us, distinct, reaches, rfl, revokes, fun u _ => m.invalidation_cases u,
      fun u member => Stage.refuses ?_, fun scans ends' later => ?_⟩
    · exact (revokes.tombstones u).trans (if_pos member)
    · exact SessionManager.invalidateUser_again stored reaches revokes b.store_range scans ends'
        later

theorem Stage.invalidateUser_reaches_stored :
    let r : SessionRecord := ⟨.zero, "kim", .epoch, .epoch, .epoch, [], false⟩
    let b : Backend := { store := ({} : SessionStore).put r }
    let m : SessionManager := .ofSettings {}
    let after := m.invalidateUser .epoch b "kim"
    after.1 = .ok 1 ∧ after.2.1.cache.revoked[Uuid.zero]? = some .epoch ∧
      after.2.1.writes.queue.channel = [.write (.delete .zero)] := by
  intro r b m after
  have started : SessionManager.start {} = .ok m := rfl
  have keyed : (Stage.mk m {} .epoch []).cache.Keyed :=
    Stage.keyed_afterAll (SessionManager.keyed_of_start started) []
  have fits : r.Fits := ⟨by decide, by decide⟩
  have legible : r.Legible := ⟨by decide, by decide, by decide⟩
  have read (u : Uuid) : b.store.get u = if Uuid.zero = u then .ok (some r) else .ok none := by
    rw [SessionStore.get_put fits, legible.asWritten, SessionStore.get_eq_ok_none.mpr (by simp)]
  have stored : b.store.Holds fun _ => True := .put SessionStore.holds_empty fits trivial
  have scanned : b.range.1 = .done b.store.active := rfl
  obtain ⟨-, -, reached⟩ := Stage.invalidateUser_reaches keyed stored .epoch "kim"
  obtain ⟨us, distinct, reaches, count, revokes, -⟩ := reached fun text => nofun
  have only : us = [.zero] := by
    refine List.perm_singleton.mp ((List.perm_ext_iff_of_nodup distinct (by simp)).mpr fun u => ?_)
    rw [reaches, List.mem_singleton]
    constructor
    · rintro ⟨-, ⟨x, cached, -⟩ | ⟨-, r', found, -⟩⟩
      · simp [m, SessionManager.ofSettings, SessionCache.get?] at cached
      · rw [read] at found
        split at found
        · next same => exact same.symm
        · cases found
    · rintro rfl
      exact ⟨rfl, .inr ⟨⟨_, scanned⟩, r, read .zero, rfl, rfl⟩⟩
  subst only
  refine ⟨count, ?_, ?_⟩
  · rw [revokes.tombstones]
    rfl
  · rw [revokes.writes]
    rfl

/-- If the store could not be scanned, a second invalidation right away finds the stored session. -/
theorem Stage.invalidateUser_reaches_more_after_failed_scan :
    let r : SessionRecord := ⟨.zero, "kim", .epoch, .epoch, .epoch, [], false⟩
    let b : Backend :=
      { store := ({} : SessionStore).put r,
        faults := fun call n =>
          if call = .range ∧ n = 0 then some (.error (.unavailable "")) else none }
    let m : SessionManager := .ofSettings {}
    let first := m.invalidateUser .epoch b "kim"
    let second := first.2.1.invalidateUser .epoch first.2.2 "kim"
    Run default ⟨m, {}, .epoch, []⟩ ∧ b.store.Holds (fun _ => True) ∧
      first.1 = .ok 0 ∧ second.1 = .ok 1 := by
  intro r b m first second
  have fits : r.Fits := ⟨by decide, by decide⟩
  have found : second.1.toOption = some 1 := by decide +kernel
  refine ⟨.start rfl, .put SessionStore.holds_empty fits trivial, rfl, ?_⟩
  match second.1, found with
  | .ok _, rfl => rfl

end SessionGateway
