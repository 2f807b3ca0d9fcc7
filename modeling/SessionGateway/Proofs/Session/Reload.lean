import SessionGateway.Proofs.Session.Manager

/-! A session that is stored but not cached. Its record is checked before the session is cached and
the session once more afterwards; the two checks agree, so a token of the session is answered as if
the session had been in the cache all along. -/

namespace SessionGateway

namespace SessionManager

variable {m : SessionManager} {ctx : SessionContext} {b : Backend} {u : Uuid} {r : SessionRecord}
  {p : Principal} {claims : Claims}

theorem find_of_cached {x : Session} (cached : m.cache.get? u = some x) :
    m.find ctx b u = (.ok x, m, b) := by
  rw [find, cached]

theorem find_of_admissible (free : m.cache.isRevoked u = false) (gone : m.cache.get? u = none)
    (stored : (b.get u).1 = .done (some r)) {x : Session} (mine : x.uuid = u)
    (passed : admissible ctx u r = .ok x) :
    m.find ctx b u = (.ok x, { m with cache := m.cache.insert x }, (b.get u).2) := by
  have added : m.cache.insertLoaded x = (.added, m.cache.insert x) := by
    simp [SessionCache.insertLoaded, mine, free, gone]
  simp only [find, gone, stored, loaded, passed, added]

theorem find_of_refused (gone : m.cache.get? u = none) (stored : (b.get u).1 = .done (some r))
    {e : SessionError} (refused : admissible ctx u r = .error e) :
    m.find ctx b u = (.error e, m, (b.get u).2) := by
  simp only [find, gone, stored, loaded, refused]

theorem admissible_cases (known : ctx.principals r.user = some p) (claims : Claims) :
    admissible ctx claims.sid r = .ok (.ofRecord r p) ∨
      ∃ e, admissible ctx claims.sid r = .error e ∧
        ∀ m, accessed m ctx claims (.ofRecord r p) = .error e := by
  by_cases flagged : r.invalidated = true
  · refine .inr ⟨.invalidated claims.sid, ?_, fun m => ?_⟩
    · rw [admissible, if_pos flagged]
    · exact if_pos flagged
  · by_cases ended : r.isExpired ctx.now = true
    · refine .inr ⟨.expired claims.sid, ?_, fun m => ?_⟩
      · rw [admissible, if_neg flagged, if_pos ended]
      · exact (if_neg flagged).trans (if_pos ended)
    · refine .inl ?_
      rw [admissible, if_neg flagged, if_neg ended, known]

def answer (m : SessionManager) (ctx : SessionContext) (b : Backend) (claims : Claims)
    (x : Session) : Except SessionError (Uuid × Principal) × SessionManager × Backend :=
  match m.accessed ctx claims x with
  | .error e => (.error e, m, b)
  | .ok x =>
    (.ok (claims.sid, x.principal),
      { m with cache := m.cache.insert x }.offer (.put x.toRecord), b)

section resolve

variable {token : String} {m' : SessionManager} {b' : Backend}

theorem resolve_of_revoked (valid : ctx.issuer.validate token = .ok claims)
    (revoked : m.cache.isRevoked claims.sid = true) :
    m.resolve ctx b token = (.error (.invalidated claims.sid), m, b) := by
  simp only [resolve, valid, resolveClaims, revoked, if_true]

theorem resolve_of_found (valid : ctx.issuer.validate token = .ok claims)
    (free : m.cache.isRevoked claims.sid = false) {x : Session}
    (found : m.find ctx b claims.sid = (.ok x, m', b')) :
    m.resolve ctx b token = m'.answer ctx b' claims x := by
  simp only [resolve, valid, resolveClaims, free, found]
  rfl

theorem resolve_of_missed (valid : ctx.issuer.validate token = .ok claims)
    (free : m.cache.isRevoked claims.sid = false) {e : SessionError}
    (missed : m.find ctx b claims.sid = (.error e, m', b')) :
    m.resolve ctx b token = (.error e, m', b') := by
  simp only [resolve, valid, resolveClaims, free, missed]
  rfl

end resolve

/-- A cache miss answers as a cache hit would. If the token resolves, the cache, the tombstones and
the queue are the same afterwards; the store is not changed in either case. -/
theorem resolve_miss_eq_hit {token : String} (valid : ctx.issuer.validate token = .ok claims)
    (free : m.cache.isRevoked claims.sid = false) (gone : m.cache.get? claims.sid = none)
    (stored : (b.get claims.sid).1 = .done (some r)) (mine : r.uuid = claims.sid)
    (known : ctx.principals r.user = some p) :
    let warm := { m with cache := m.cache.insert (.ofRecord r p) }
    let miss := m.resolve ctx b token
    let hit := warm.resolve ctx b token
    miss.1 = hit.1 ∧ (∀ x, miss.1 = .ok x → miss.2.1 = hit.2.1) ∧
      miss.2.2.store = b.store ∧ hit.2.2.store = b.store := by
  intro warm miss hit
  have cached : warm.cache.get? claims.sid = some (.ofRecord r p) := by
    rw [SessionCache.get?_insert]
    exact if_pos mine
  have warmHit : hit = warm.answer ctx b claims (.ofRecord r p) :=
    resolve_of_found (m := warm) valid free (find_of_cached cached)
  rcases admissible_cases known claims with passed | ⟨e, refused, denied⟩
  · have coldMiss : miss = warm.answer ctx (b.get claims.sid).2 claims (.ofRecord r p) :=
      resolve_of_found valid free (find_of_admissible free gone stored mine passed)
    rw [coldMiss, warmHit]
    unfold answer
    cases warm.accessed ctx claims (.ofRecord r p) with
    | error e => exact ⟨rfl, fun _ _ => rfl, b.store_get _, rfl⟩
    | ok x => exact ⟨rfl, fun _ _ => rfl, b.store_get _, rfl⟩
  · have coldMiss : miss = (.error e, m, (b.get claims.sid).2) :=
      resolve_of_missed valid free (find_of_refused gone stored refused)
    have denied : warm.answer ctx b claims (.ofRecord r p) = (.error e, warm, b) := by
      rw [answer, denied warm]
    rw [coldMiss, warmHit, denied]
    refine ⟨rfl, fun x resolved => ?_, b.store_get _, rfl⟩
    cases resolved

theorem resolve_miss_eq_hit_before_expiry :
    let r : SessionRecord :=
      ⟨.zero, "", .epoch, .epoch, ⟨21600, 0, by decide, by decide⟩, [7], false⟩
    let b : Backend := { store := ({} : SessionStore).put r }
    let ctx : SessionContext :=
      ⟨⟨fun _ => .ok "", fun _ => .ok ⟨.zero, "", 0, 0⟩, .ofSeconds 1⟩, fun _ => some default,
        ⟨21599, 0, by decide, by decide⟩⟩
    let m := ofSettings {}
    let warm := { m with cache := m.cache.insert (.ofRecord r default) }
    (m.resolve ctx b "").1 = .ok (.zero, default) ∧
      (m.resolve ctx b "").2.1 = (warm.resolve ctx b "").2.1 := by
  intro r b ctx m warm
  have fits : r.Fits := ⟨by decide, by decide⟩
  have legible : r.Legible := ⟨by decide, by decide, by decide⟩
  have read : b.store.get .zero = .ok (some r) := by
    rw [SessionStore.get_put fits, legible.asWritten, if_pos rfl]
  have healthy : b.Healthy := fun _ _ _ => rfl
  have stored : (b.get .zero).1 = .done (some r) := Backend.get_of_healthy healthy read
  let e : Instant := ⟨43199, 0, by decide, by decide⟩
  have sum : ctx.now.add? m.settings.ttl = some e := by decide
  have touched : (Session.ofRecord r default).touch ctx.now m.settings.ttl =
      .ok { Session.ofRecord r default with lastAccess := ctx.now, expiresAt := e } :=
    Session.touch_of_add? _ (by decide) sum
  have valid : ctx.issuer.validate "" = .ok ⟨.zero, "", 0, 0⟩ := rfl
  have access : warm.accessed ctx ⟨.zero, "", 0, 0⟩ (.ofRecord r default) = .ok _ :=
    accessed_eq_ok.mpr ⟨rfl, by decide, rfl, touched⟩
  have hit : (warm.resolve ctx b "").1 = .ok (.zero, default) := by
    have cached : warm.cache.get? .zero = some (.ofRecord r default) := by
      rw [SessionCache.get?_insert]
      exact if_pos rfl
    rw [resolve_of_found valid rfl (find_of_cached cached), answer, access]
    rfl
  have free : m.cache.isRevoked .zero = false := rfl
  have gone : m.cache.get? .zero = none := rfl
  obtain ⟨same, left, -, -⟩ :=
    resolve_miss_eq_hit (p := default) valid free gone stored rfl rfl
  have miss := same.trans hit
  refine ⟨miss, ?_⟩
  rw [left _ miss]

end SessionManager

end SessionGateway
