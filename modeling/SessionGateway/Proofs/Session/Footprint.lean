import SessionGateway.Proofs.Session.Reload

/-! What a resolve changes. It touches the session of the token and no other: if it succeeds, that
session slides and its record is offered to the queue; if it fails, nothing is offered and the
session may at most have been loaded. -/

namespace SessionGateway

namespace SessionCache

structure Sets (u : Uuid) (x : Session) (c c' : SessionCache) : Prop where
  entry : c'.get? u = some x
  others : ∀ v, v ≠ u → c'.get? v = c.get? v
  revoked : c'.revoked = c.revoked

variable {c c' c'' : SessionCache} {u : Uuid} {x y : Session}

theorem Sets.insert (c : SessionCache) (mine : x.uuid = u) : Sets u x c (c.insert x) := by
  refine ⟨?_, fun v other => ?_, rfl⟩
  · rw [get?_insert, if_pos mine]
  · rw [get?_insert, mine, if_neg other.symm]

theorem Sets.trans (h : Sets u x c c') (h' : Sets u y c' c'') : Sets u y c c'' :=
  ⟨h'.entry, fun v other => (h'.others v other).trans (h.others v other),
    h'.revoked.trans h.revoked⟩

end SessionCache

namespace SessionManager

variable {m : SessionManager} {ctx : SessionContext} {b : Backend} {u : Uuid} {token : String}
  {claims : Claims}

theorem eq_of_accessed {x x' : Session} (access : m.accessed ctx claims x = .ok x') :
    x.invalidated = false ∧ ∃ e, ctx.now.add? m.settings.ttl = some e ∧
      x' = { x with lastAccess := ctx.now, expiresAt := e } := by
  obtain ⟨unflagged, -, -, touched⟩ := accessed_eq_ok.mp access
  obtain ⟨e, granted, same⟩ := Session.touch_eq_ok touched
  exact ⟨unflagged, e, (Session.expiry_eq_ok.mp granted).2, same⟩

theorem uuid_of_accessed {x x' : Session} (access : m.accessed ctx claims x = .ok x') :
    x'.uuid = x.uuid := by
  obtain ⟨-, e, -, rfl⟩ := eq_of_accessed access
  rfl

/-- A stored record of a known user that stands for a session outside the cache. -/
structure Stored (m : SessionManager) (ctx : SessionContext) (b : Backend) (u : Uuid)
    (r : SessionRecord) (p : Principal) : Prop where
  gone : m.cache.get? u = none
  read : b.store.get u = .ok (some r)
  known : ctx.principals r.user = some p

inductive Available (m : SessionManager) (ctx : SessionContext) (b : Backend) (u : Uuid) :
    Session → Prop
  | cached {x : Session} (cached : m.cache.get? u = some x) : Available m ctx b u x
  | stored {r : SessionRecord} {p : Principal} (stored : m.Stored ctx b u r p) :
    Available m ctx b u (.ofRecord r p)

inductive Outcome (m : SessionManager) (ctx : SessionContext) (b : Backend) (token : String) :
    Except SessionError (Uuid × Principal) × SessionManager × Backend → Prop
  | refused {e : SessionError} {b' : Backend} (same : b'.store = b.store) :
    Outcome m ctx b token (.error e, m, b')
  | loaded {claims : Claims} {r : SessionRecord} {p : Principal} {e : SessionError}
      {c : SessionCache} {b' : Backend} (valid : ctx.issuer.validate token = .ok claims)
      (stored : m.Stored ctx b claims.sid r p)
      (set : m.cache.Sets claims.sid (.ofRecord r p) c) (same : b'.store = b.store) :
    Outcome m ctx b token (.error e, { m with cache := c }, b')
  | accessed {claims : Claims} {x x' : Session} {c : SessionCache} {b' : Backend}
      (valid : ctx.issuer.validate token = .ok claims) (held : m.Available ctx b claims.sid x)
      (mine : x.uuid = claims.sid) (access : m.accessed ctx claims x = .ok x')
      (set : m.cache.Sets claims.sid x' c) (same : b'.store = b.store) :
    Outcome m ctx b token
      (.ok (claims.sid, x'.principal), { m with cache := c }.offer (.put x'.toRecord), b')

theorem outcome (keyed : m.cache.Keyed)
    (stored : ∀ u r, b.store.get u = .ok (some r) → r.uuid = u) (ctx : SessionContext)
    (token : String) : Outcome m ctx b token (m.resolve ctx b token) := by
  cases valid : ctx.issuer.validate token with
  | error e =>
    rw [resolve, valid]
    exact .refused rfl
  | ok claims =>
    cases revoked : m.cache.isRevoked claims.sid with
    | true =>
      rw [resolve_of_revoked valid revoked]
      exact .refused rfl
    | false =>
      have outcome : Found m ctx b claims.sid (m.find ctx b claims.sid) :=
        found revoked (stored claims.sid)
      generalize search : m.find ctx b claims.sid = result at outcome
      cases outcome with
      | missed gone =>
        rw [resolve_of_missed valid revoked search]
        exact .refused (b.store_get _)
      | @cached x cached =>
        rw [resolve_of_found valid revoked search, answer]
        cases access : m.accessed ctx claims x with
        | error e => exact .refused rfl
        | ok x' =>
          have mine : x.uuid = claims.sid := keyed _ x cached
          have mine' : x'.uuid = claims.sid := (uuid_of_accessed access).trans mine
          exact .accessed valid (.cached cached) mine access (.insert _ mine') rfl
      | @loaded r p gone read unflagged future known =>
        have mine : (Session.ofRecord r p).uuid = claims.sid := stored claims.sid r read
        have load := SessionCache.Sets.insert m.cache mine
        rw [resolve_of_found valid revoked search, answer]
        cases access : accessed { m with cache := m.cache.insert (.ofRecord r p) } ctx claims
            (.ofRecord r p) with
        | error e => exact .loaded valid ⟨gone, read, known⟩ load (b.store_get _)
        | ok x' =>
          have mine' : x'.uuid = claims.sid := (uuid_of_accessed access).trans mine
          exact .accessed valid (.stored ⟨gone, read, known⟩) mine access
            (load.trans (.insert _ mine')) (b.store_get _)

/-- A resolve changes one session. If it succeeds, the session is the one that was cached or stored,
not flagged, with its last access now and its expiry a lifetime from now, and its record is the one
write that is offered to the queue. If it fails, nothing is offered, and the cache is as before or
has the session as it is stored. No tombstone and no other session changes, and neither does the
store. -/
theorem resolve_footprint (keyed : m.cache.Keyed)
    (stored : ∀ u r, b.store.get u = .ok (some r) → r.uuid = u) (ctx : SessionContext)
    (token : String) :
    let after := m.resolve ctx b token
    (∀ u p, after.1 = .ok (u, p) → ∃ x e, m.Available ctx b u x ∧ x.uuid = u ∧ x.principal = p ∧
      x.invalidated = false ∧ ctx.now.add? m.settings.ttl = some e ∧
      let x' := { x with lastAccess := ctx.now, expiresAt := e }
      m.cache.Sets u x' after.2.1.cache ∧ after.2.1.writes =
        { m.writes with queue := (m.writes.queue.enqueue (.put x'.toRecord)).2 }) ∧
    (∀ e, after.1 = .error e → after.2.1.writes = m.writes ∧
      (after.2.1.cache = m.cache ∨ ∃ claims r p, ctx.issuer.validate token = .ok claims ∧
        m.Stored ctx b claims.sid r p ∧
        m.cache.Sets claims.sid (.ofRecord r p) after.2.1.cache)) ∧
    after.2.1.settings = m.settings ∧ after.2.2.store = b.store := by
  intro after
  have outcome : Outcome m ctx b token after := outcome keyed stored ctx token
  generalize after = after at outcome
  cases outcome with
  | refused same =>
    refine ⟨fun u p answer => ?_, fun e _ => ⟨rfl, .inl rfl⟩, rfl, same⟩
    cases answer
  | @loaded claims r p e c b' valid held set same =>
    refine ⟨fun u p answer => ?_, fun e _ => ⟨rfl, .inr ⟨claims, r, p, valid, held, set⟩⟩, rfl,
      same⟩
    cases answer
  | @accessed claims x x' c b' valid held mine access set same =>
    refine ⟨fun u p answer => ?_, fun e answer => ?_, rfl, same⟩
    · cases answer
      obtain ⟨unflagged, e, sum, rfl⟩ := eq_of_accessed access
      exact ⟨x, e, held, mine, rfl, unflagged, sum, set, rfl⟩
    · cases answer

theorem resolve_footprint_of_cached :
    let x : Session :=
      ⟨.zero, default, .epoch, .epoch, ⟨21600, 0, by decide, by decide⟩, [7], false⟩
    let m := { ofSettings {} with cache := ({} : SessionCache).insert x }
    let ctx : SessionContext :=
      ⟨⟨fun _ => .ok "", fun _ => .ok ⟨.zero, "", 0, 0⟩, .ofSeconds 1⟩, fun _ => none,
        ⟨21599, 0, by decide, by decide⟩⟩
    let after := (m.resolve ctx {} "").2.1
    let x' := { x with lastAccess := ctx.now, expiresAt := ⟨43199, 0, by decide, by decide⟩ }
    after.cache.get? .zero = some x' ∧
      after.writes.queue = (m.writes.queue.enqueue (.put x'.toRecord)).2 := by
  intro x m ctx after x'
  have cached : m.cache.get? .zero = some x := by
    rw [SessionCache.get?_insert]
    exact if_pos rfl
  have keyed : m.cache.Keyed := SessionCache.forall_insert (fun v y found => by
    simp [SessionCache.get?] at found) rfl
  have empty : ∀ u r, ({} : Backend).store.get u = .ok (some r) → r.uuid = u := by
    intro u r read
    rw [SessionStore.get_eq_ok_none.mpr (by simp)] at read
    cases read
  have valid : ctx.issuer.validate "" = .ok ⟨.zero, "", 0, 0⟩ := rfl
  have sum : ctx.now.add? m.settings.ttl = some x'.expiresAt := by decide
  have touched : x.touch ctx.now m.settings.ttl = .ok x' := x.touch_of_add? (by decide) sum
  have access : m.accessed ctx ⟨.zero, "", 0, 0⟩ x = .ok x' :=
    accessed_eq_ok.mpr ⟨rfl, by decide, rfl, touched⟩
  have answer : (m.resolve ctx {} "").1 = .ok (.zero, default) := by
    rw [resolve_of_found valid rfl (find_of_cached cached), answer, access]
  obtain ⟨effect, -⟩ := resolve_footprint keyed empty ctx ""
  obtain ⟨y, e, available, -, -, -, sum', sets, writes⟩ := effect .zero default answer
  have same : x = y := by
    cases available with
    | cached found => exact Option.some.inj (cached.symm.trans found)
    | stored stored => cases cached.symm.trans stored.gone
  subst same
  obtain rfl : x'.expiresAt = e := Option.some.inj (sum.symm.trans sum')
  refine ⟨?_, ?_⟩
  · rw [sets.entry]
  · rw [writes]

end SessionManager

end SessionGateway
