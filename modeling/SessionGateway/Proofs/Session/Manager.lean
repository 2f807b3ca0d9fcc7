import SessionGateway.Proofs.Session.Entry

/-! What each operation of a manager answers and leaves behind, by cases. -/

namespace SessionGateway

namespace SessionManager

variable {m : SessionManager} {ctx : SessionContext} {b : Backend} {u : Uuid}

theorem start_eq_ok {settings : SessionSettings} (h : start settings = .ok m) :
    m = ofSettings settings := by
  unfold start WriteQueue.make at h
  split at h
  · cases h
    rfl
  · cases h

theorem create_cases (m : SessionManager) (ctx : SessionContext) (u : Uuid) (p : Principal)
    (c : List UInt8) :
    (∃ e, m.create ctx u p c = (.error e, m)) ∨
      ∃ x token, Session.start u p c ctx.now m.settings.ttl = .ok x ∧
        m.create ctx u p c = (.ok ⟨x, token⟩,
          { m with cache := m.cache.insert x }.offer (.put x.toRecord)) := by
  unfold create
  cases started : Session.start u p c ctx.now m.settings.ttl with
  | error e => exact .inl ⟨e, rfl⟩
  | ok x =>
    cases ctx.issuer.issue (.issued u p.user ctx.now ctx.issuer.lifetime) with
    | error e => exact .inl ⟨_, rfl⟩
    | ok token => exact .inr ⟨x, token, rfl, rfl⟩

theorem create_eq_ok {m' : SessionManager} {p : Principal} {c : List UInt8} {i : IssuedSession}
    (h : m.create ctx u p c = (.ok i, m')) :
    i.session.uuid = u ∧ i.session.principal = p ∧
      ctx.issuer.issue (.issued u p.user ctx.now ctx.issuer.lifetime) = .ok i.token := by
  unfold create at h
  split at h
  · cases h
  · next x started =>
    split at h
    · cases h
    · next token minted =>
      cases h
      obtain ⟨e, -, rfl⟩ := Session.start_eq_ok started
      exact ⟨rfl, rfl, minted⟩

theorem admissible_eq_ok {r : SessionRecord} {x : Session} (h : admissible ctx u r = .ok x) :
    ∃ p, ctx.principals r.user = some p ∧ x = .ofRecord r p ∧ r.invalidated = false ∧
      ctx.now < r.expiresAt := by
  unfold admissible at h
  split at h
  · cases h
  · next unflagged =>
    split at h
    · cases h
    · next future =>
      rw [SessionRecord.isExpired, decide_eq_true_eq, Instant.not_le] at future
      split at h
      · cases h
      · next p found => exact ⟨p, found, (Except.ok.inj h).symm, by simpa using unflagged, future⟩

theorem loaded_eq_ok {reply : Reply (Option SessionRecord)} {x : Session}
    (h : loaded ctx u reply = .ok x) :
    ∃ r p, reply = .done (some r) ∧ ctx.principals r.user = some p ∧ x = .ofRecord r p ∧
      r.invalidated = false ∧ ctx.now < r.expiresAt := by
  unfold loaded at h
  split at h
  · cases h
  · cases h
  · next r =>
    obtain ⟨p, rest⟩ := admissible_eq_ok h
    exact ⟨r, p, rfl, rest⟩

inductive Found (m : SessionManager) (ctx : SessionContext) (b : Backend) (u : Uuid) :
    Except SessionError Session × SessionManager × Backend → Prop
  | cached {x : Session} (cached : m.cache.get? u = some x) : Found m ctx b u (.ok x, m, b)
  | missed {e : SessionError} (gone : m.cache.get? u = none) :
    Found m ctx b u (.error e, m, (b.get u).2)
  | loaded {r : SessionRecord} {p : Principal} (gone : m.cache.get? u = none)
    (stored : b.store.get u = .ok (some r)) (unflagged : r.invalidated = false)
    (future : ctx.now < r.expiresAt) (found : ctx.principals r.user = some p) :
    Found m ctx b u
      (.ok (.ofRecord r p), { m with cache := m.cache.insert (.ofRecord r p) }, (b.get u).2)

theorem found (free : m.cache.isRevoked u = false)
    (key : ∀ r, b.store.get u = .ok (some r) → r.uuid = u) : Found m ctx b u (m.find ctx b u) := by
  unfold find
  cases cached : m.cache.get? u with
  | some x => exact .cached cached
  | none =>
    dsimp only
    cases read : b.get u with
    | mk reply b' =>
      obtain rfl : (b.get u).2 = b' := congrArg Prod.snd read
      dsimp only
      cases outcome : loaded ctx u reply with
      | error e => exact .missed cached
      | ok x =>
        obtain ⟨r, p, rfl, source, rfl, unflagged, future⟩ := loaded_eq_ok outcome
        have stored := Backend.get_done (congrArg Prod.fst read)
        have mine : (Session.ofRecord r p).uuid = u := key r stored
        have added : m.cache.insertLoaded (.ofRecord r p) =
            (.added, m.cache.insert (.ofRecord r p)) := by
          simp [SessionCache.insertLoaded, mine, free, cached]
        simp only [added]
        exact .loaded cached stored unflagged future source

theorem accessed_eq_ok {claims : Claims} {x x' : Session} :
    m.accessed ctx claims x = .ok x' ↔ x.invalidated = false ∧ ctx.now < x.expiresAt ∧
      x.principal.user = claims.sub ∧ x.touch ctx.now m.settings.ttl = .ok x' := by
  unfold accessed
  rw [← Instant.not_le]
  split
  · next flagged => simp [flagged]
  · next unflagged =>
    split
    · next expired => simp_all [Session.isExpired]
    · next unexpired =>
      split
      · next other => simp [other]
      · next same => simp_all [Session.isExpired]

theorem resolve_eq_ok {token : String} {claims : Claims}
    (key : ∀ r, b.store.get claims.sid = .ok (some r) → r.uuid = claims.sid)
    (valid : ctx.issuer.validate token = .ok claims) {p : Principal}
    (answer : (m.resolve ctx b token).1 = .ok (u, p)) :
    u = claims.sid ∧ p.user = claims.sub ∧ m.cache.revoked[claims.sid]? = none ∧
      ((∃ x, m.cache.get? claims.sid = some x ∧ x.principal = p ∧ x.invalidated = false ∧
        ctx.now < x.expiresAt) ∨
      m.cache.get? claims.sid = none ∧ ∃ r, b.store.get claims.sid = .ok (some r) ∧
        r.invalidated = false ∧ ctx.now < r.expiresAt) := by
  simp only [resolve, valid, resolveClaims] at answer
  cases revoked : m.cache.isRevoked claims.sid with
  | true => simp [revoked] at answer
  | false =>
    have free := (m.cache.isRevoked_eq_false claims.sid).mp revoked
    have outcome : Found m ctx b claims.sid (m.find ctx b claims.sid) := found revoked key
    simp only [revoked] at answer
    generalize m.find ctx b claims.sid = found at outcome answer
    cases outcome with
    | missed gone => simp at answer
    | @cached x cached =>
      dsimp only at answer
      cases access : m.accessed ctx claims x with
      | error e => simp [access] at answer
      | ok x' =>
        obtain ⟨unflagged, future, user, touched⟩ := accessed_eq_ok.mp access
        obtain ⟨e, -, rfl⟩ := Session.touch_eq_ok touched
        simp only [access] at answer
        cases answer
        exact ⟨rfl, user, free, .inl ⟨x, cached, rfl, unflagged, future⟩⟩
    | @loaded r p' gone stored unflagged future source =>
      dsimp only at answer
      cases access : accessed { m with cache := m.cache.insert (.ofRecord r p') } ctx claims
          (.ofRecord r p') with
      | error e => simp [access] at answer
      | ok x' =>
        obtain ⟨-, -, user, touched⟩ := accessed_eq_ok.mp access
        obtain ⟨e, -, rfl⟩ := Session.touch_eq_ok touched
        simp only [access] at answer
        cases answer
        exact ⟨rfl, user, free, .inr ⟨gone, r, stored, unflagged, future⟩⟩

theorem invalidation_cases (m : SessionManager) (u : Uuid) :
    m.invalidation u (m.cache.get? u) = .delete u ∨ m.invalidation u (m.cache.get? u) = .flag u ∨
      ∃ x, m.cache.get? u = some x ∧
        m.invalidation u (m.cache.get? u) = .put x.invalidate.toRecord := by
  unfold invalidation
  cases m.cache.get? u with
  | none =>
    cases m.settings.retention with
    | hardDelete => exact .inl rfl
    | softInvalidate => exact .inr (.inl rfl)
  | some x =>
    cases m.settings.retention with
    | hardDelete => exact .inl rfl
    | softInvalidate => exact .inr (.inr ⟨x, rfl, rfl⟩)

theorem invalidate_of_revoked (h : m.cache.isRevoked u = true) (now : Instant) :
    m.invalidate now u = (false, m) := by
  rw [invalidate, (m.cache.revoke?_eq_none u now).mpr h]

theorem invalidate_of_free (h : m.cache.isRevoked u = false) (now : Instant) :
    m.invalidate now u =
      (true, { m with cache := m.cache.bury u now }.offer
        (m.invalidation u (m.cache.get? u))) := by
  have set : m.cache.revoke? u now =
      some { m.cache with revoked := m.cache.revoked.insert u now } := by
    simp [SessionCache.revoke?, h]
  rw [invalidate, set]
  rfl

theorem free_of_invalidate {now : Instant} (fresh : (m.invalidate now u).1 = true) :
    m.cache.isRevoked u = false := by
  cases revoked : m.cache.isRevoked u with
  | false => rfl
  | true => simp [invalidate_of_revoked revoked] at fresh

/-- The sessions that an invalidation of a user goes through; none if the scan of the store
crashes. -/
def reached (m : SessionManager) (b : Backend) (user : String) : List Uuid :=
  match b.range.1 with
  | .failed (.crash _) => []
  | .failed (.error _) => sortedUuids (m.cache.sessionsOf user)
  | .done records =>
    sortedUuids (m.cache.sessionsOf user ++ (records.filter (·.user = user)).map (·.uuid))

theorem invalidateUser_cases (m : SessionManager) (now : Instant) (b : Backend) (user : String) :
    (∃ text, b.range.1 = .failed (.crash text) ∧ m.invalidateUser now b user =
      (.error (.storeUnavailable (poolCrash text)), m, b.range.2)) ∨
    (∀ text, b.range.1 ≠ .failed (.crash text)) ∧ m.invalidateUser now b user =
      (.ok (m.invalidateAll now (m.reached b user)).1,
        (m.invalidateAll now (m.reached b user)).2, b.range.2) := by
  unfold invalidateUser reached
  cases b.range with
  | mk reply b' =>
    cases reply with
    | done records => exact .inr ⟨fun _ => nofun, rfl⟩
    | failed fault =>
      cases fault with
      | error e => exact .inr ⟨fun _ => nofun, rfl⟩
      | crash text => exact .inl ⟨text, rfl, rfl⟩

end SessionManager

end SessionGateway
