import SessionGateway.Proofs.Session.Run

/-! Which tokens resolve in the course of a run. What was done to a session and the time decide it;
what is cached, stored or still to be written does not. -/

namespace SessionGateway

namespace Stage

variable {o : Origin} {s : Stage} {ctx : SessionContext} {token : String} {claims : Claims}

theorem Coherent.of_resolve (h : Coherent o s) (now : ctx.now = s.clock)
    (valid : ctx.issuer.validate token = .ok claims) {u : Uuid} {p : Principal}
    (answer : (s.manager.resolve ctx s.backend token).1 = .ok (u, p)) :
    u = claims.sid ∧ p.user = claims.sub ∧
      ((∃ x, s.cache.get? claims.sid = some x ∧ x.principal = p ∧ x.invalidated = false ∧
        s.clock < x.expiresAt) ∨
      s.history.of claims.sid = [] ∧ ∃ r, o.backend.store.get claims.sid = .ok (some r)) := by
  obtain ⟨same, user, free, cached | ⟨gone, r, stored, -, future⟩⟩ :=
    SessionManager.resolve_eq_ok (fun r answer => (h.stored.get answer).1) valid answer
  · exact ⟨same, user, .inl (now ▸ cached)⟩
  · obtain ⟨-, fresh, original⟩ := h.fresh_of_load gone free stored (now ▸ future)
    exact ⟨same, user, .inr ⟨fresh, r, original⟩⟩

theorem Coherent.resolve_of_cached (h : Coherent o s) (now : ctx.now = s.clock)
    (positive : o.settings.ttl.IsPositive)
    (calendar : ∃ e, s.clock.add? o.settings.ttl = some e)
    (valid : ctx.issuer.validate token = .ok claims) {x : Session}
    (cached : s.cache.get? claims.sid = some x) (user : x.principal.user = claims.sub)
    (unflagged : x.invalidated = false) (future : s.clock < x.expiresAt) :
    (s.manager.resolve ctx s.backend token).1 = .ok (claims.sid, x.principal) := by
  obtain ⟨e, sum⟩ := calendar
  obtain ⟨l, -, -, mirrors⟩ := (h.entries claims.sid).live x cached
  have free : s.cache.isRevoked claims.sid = false :=
    (s.cache.isRevoked_eq_false _).mpr
      ((h.entries claims.sid).free (mirrors.unrevoked_iff.mp unflagged))
  have touched : x.touch ctx.now s.manager.settings.ttl =
      .ok { x with lastAccess := ctx.now, expiresAt := e } := by
    rw [now, h.settings]
    exact x.touch_of_add? positive sum
  have access := SessionManager.accessed_eq_ok.mpr ⟨unflagged, now ▸ future, user, touched⟩
  simp [SessionManager.resolve, valid, SessionManager.resolveClaims, free, SessionManager.find,
    cached, access]

theorem Coherent.inUse_of_live (h : Coherent o s) {u : Uuid}
    (unused : o.backend.store.get u = .ok none) {x : Session} (cached : s.cache.get? u = some x)
    (unflagged : x.invalidated = false) (future : s.clock < x.expiresAt) :
    (s.history.of u).InUse o.settings.ttl x.principal s.clock := by
  obtain ⟨l, hl, -, mirrors⟩ := (h.entries u).live x cached
  obtain ⟨⟨a, p, c, member⟩, t, last⟩ := o.issued_of_record unused hl
  obtain ⟨l', hl', sum⟩ := (h.entries u).used t last
  obtain rfl : l = l' := by simpa [hl] using hl'
  refine ⟨⟨a, c, ?_⟩, mirrors.unrevoked_iff.mp unflagged, t, l.expiresAt, last, sum,
    mirrors.expiresAt ▸ future⟩
  rw [mirrors.issued a p c member]
  exact member

theorem Coherent.live_of_inUse (h : Coherent o s) {u : Uuid} {p : Principal}
    (inUse : (s.history.of u).InUse o.settings.ttl p s.clock) :
    ∃ x, s.cache.get? u = some x ∧ x.principal = p ∧ x.invalidated = false ∧
      s.clock < x.expiresAt := by
  -- Sweeps only evict what is over, so a session in use is still cached.
  obtain ⟨⟨a, c, member⟩, unrevoked, t, e, last, sum, future⟩ := inUse
  have follows := h.entries u
  obtain ⟨l, hl, sum'⟩ := follows.used t last
  obtain rfl : e = l.expiresAt := Option.some.inj (sum.symm.trans sum')
  cases cached : s.cache.get? u with
  | none =>
    have ended := follows.ended (List.ne_nil_of_mem member) cached (follows.free unrevoked) l hl
    rw [← Instant.not_le] at future
    exact absurd ended future
  | some x =>
    obtain ⟨l', hl', -, mirrors⟩ := follows.live x cached
    obtain rfl : l = l' := by simpa [hl] using hl'
    exact ⟨x, rfl, mirrors.issued a p c member, mirrors.unrevoked_iff.mpr unrevoked,
      mirrors.expiresAt ▸ future⟩

end Stage

/-- Once a session is revoked its tokens never resolve again, whatever became of the write that
says so and of the tombstone. -/
theorem Run.not_resolve_of_revoked {o : Origin} (sound : o.Sound) {s : Stage} (run : Run o s)
    {ctx : SessionContext} (later : s.clock.Advances ctx.now) {token : String} {claims : Claims}
    (valid : ctx.issuer.validate token = .ok claims)
    (revoked : (s.history.of claims.sid).Revoked) (x : Uuid × Principal) :
    (s.manager.resolve ctx s.backend token).1 ≠ .ok x := by
  intro answer
  have h := (run.coherent sound).tick later
  obtain ⟨-, -, ⟨y, cached, -, unflagged, -⟩ | ⟨fresh, -⟩⟩ := h.of_resolve rfl valid answer
  · obtain ⟨l, -, -, mirrors⟩ := (h.entries claims.sid).live y cached
    exact mirrors.unrevoked_iff.mp unflagged revoked
  · change s.history.of claims.sid = [] at fresh
    simp [fresh] at revoked

theorem Run.not_resolve_after_logout :
    let ctx : SessionContext :=
      ⟨⟨fun _ => .ok "", fun _ => .ok ⟨.zero, "", 0, 0⟩, .ofSeconds 1⟩, fun _ => none, .epoch⟩
    let s := (Stage.after ⟨.ofSettings {}, {}, .epoch, []⟩ (.create ctx .zero default [])).after
      (.logout ctx "")
    (s.manager.resolve ctx s.backend "").1 ≠ .ok (.zero, default) := by
  intro ctx s
  have now : ∀ t ∈ some ctx.now, Instant.epoch.Advances t := by
    rintro t ⟨⟩
    exact .refl _
  have start : Run default ⟨.ofSettings {}, {}, .epoch, []⟩ := .start rfl
  have created := start.call (.create ctx .zero default []) now ⟨rfl, rfl, by decide, by decide⟩
  have run : Run default s := created.call (.logout ctx "") now trivial
  have revoked : (s.history.of .zero).Revoked := ⟨.epoch, History.mem_of.mpr List.mem_cons_self⟩
  have sound : Origin.Sound default := SessionStore.holds_empty
  exact run.not_resolve_of_revoked sound (.refl _) rfl revoked _

/-- Here no time goes back, but the clock does not advance. The record is as old as it may be and
the deletion still waits. -/
theorem Run.resolve_after_logout_in_leap_second :
    let r : SessionRecord :=
      ⟨.zero, "", .epoch, .epoch, ⟨4102466399, 950000000, by decide, by decide⟩, [], false⟩
    let o : Origin := ⟨LeapSecond.settings, LeapSecond.opening,
      { store := ({} : SessionStore).put r }, fun _ => True⟩
    let out := Stage.after ⟨.ofSettings o.settings, o.backend, o.clock, []⟩
      (.logout (LeapSecond.context LeapSecond.inside) "")
    let s := out.after (.sweep LeapSecond.late)
    o.Sound ∧ LeapSecond.opening ≤ LeapSecond.inside ∧ LeapSecond.inside ≤ LeapSecond.late ∧
      (s.history.of .zero).Revoked ∧
      (s.manager.resolve (LeapSecond.context LeapSecond.late) s.backend "").1 =
        .ok (.zero, default) := by
  intro r o out s
  have fits : r.Fits := ⟨by decide, by decide⟩
  have within : r.asWritten.expiresAt.Within o.clock o.settings.ttl := by
    intro e sum
    have sum' : LeapSecond.opening.add? LeapSecond.settings.ttl =
      some ⟨4102466399, 950000000, by decide, by decide⟩ := by decide
    cases sum'.symm.trans sum
    decide
  have answer : (s.manager.resolve (LeapSecond.context LeapSecond.late) s.backend "").1.toOption =
      some (.zero, default) := by
    decide +kernel
  refine ⟨.put SessionStore.holds_empty fits within, by decide, by decide,
    ⟨LeapSecond.inside, History.mem_of.mpr List.mem_cons_self⟩, ?_⟩
  match (s.manager.resolve (LeapSecond.context LeapSecond.late) s.backend "").1, answer with
  | .ok _, rfl => rfl

theorem positive_ttl {cfg : Settings} (valid : cfg.check = .ok ()) :
    cfg.session.ttl.IsPositive := by
  have checked : Settings.checkSeconds "session.ttl_secs" 1 cfg.session.ttlSecs = .ok () := by
    cases first : Settings.checkSeconds "session.ttl_secs" 1 cfg.session.ttlSecs with
    | ok _ => rfl
    | error e =>
      rw [Settings.check, first] at valid
      cases valid
  unfold Settings.checkSeconds at checked
  split at checked
  · cases checked
  · next bounds =>
    have least : 1 ≤ cfg.session.ttlSecs.toNat := by omega
    simp only [SessionSettings.ttl, boundedSeconds, Span.IsPositive, Span.nanos_ofSeconds,
      longestSeconds]
    omega

theorem SessionSettings.add?_ttl {settings : SessionSettings} {t : Instant}
    (calendar : ∃ e, t.add? (settings.ttl + settings.grace) = some e) :
    ∃ e, t.add? settings.ttl = some e := by
  obtain ⟨n, ttl⟩ := exists_boundedSeconds settings.ttlSecs
  obtain ⟨g, grace⟩ := exists_boundedSeconds settings.sweepGraceSecs
  rw [SessionSettings.ttl, SessionSettings.grace, ttl, grace, Span.ofSeconds_add] at calendar
  rw [SessionSettings.ttl, ttl]
  obtain ⟨e, sum⟩ := calendar
  exact Instant.add?_isSome_of_later (m := n + g) (.refl t) (by omega) (by simpa using sum)

/-- From an empty store, a manager is a table of sessions: a token resolves to the principal to
whom its session was issued, unless the session was revoked or its lifetime, counted from its
creation or its latest access, is over. -/
theorem Run.resolve_eq_ok_iff {cfg : Settings} (valid : cfg.check = .ok ()) {o : Origin}
    (used : o.settings = cfg.session) (empty : o.backend.store = {}) {s : Stage} (run : Run o s)
    {ctx : SessionContext} (later : s.clock.Advances ctx.now)
    (calendar : ∃ e, ctx.now.add? (o.settings.ttl + o.settings.grace) = some e)
    {token : String} {claims : Claims} (accepted : ctx.issuer.validate token = .ok claims)
    (p : Principal) :
    (s.manager.resolve ctx s.backend token).1 = .ok (claims.sid, p) ↔
      (s.history.of claims.sid).InUse o.settings.ttl p ctx.now ∧ p.user = claims.sub := by
  have sound : o.Sound := by
    rw [Origin.Sound, empty]
    exact SessionStore.holds_empty
  have unused : o.backend.store.get claims.sid = .ok none := by
    rw [empty]
    exact SessionStore.get_eq_ok_none.mpr (by simp)
  have h := (run.coherent sound).tick later
  constructor
  · intro answer
    obtain ⟨-, user, ⟨x, cached, rfl, unflagged, future⟩ | ⟨-, r, stored⟩⟩ :=
      h.of_resolve rfl accepted answer
    · exact ⟨h.inUse_of_live unused cached unflagged future, user⟩
    · rw [unused] at stored
      cases stored
  · rintro ⟨inUse, user⟩
    obtain ⟨x, cached, rfl, unflagged, future⟩ := h.live_of_inUse inUse
    have positive : o.settings.ttl.IsPositive := used ▸ positive_ttl valid
    exact h.resolve_of_cached rfl positive (SessionSettings.add?_ttl calendar) accepted cached
      user unflagged future

theorem Run.resolve_after_create :
    let ctx : SessionContext :=
      ⟨⟨fun _ => .ok "", fun _ => .ok ⟨.zero, "", 0, 0⟩, .ofSeconds 1⟩, fun _ => none, .epoch⟩
    let s := Stage.after ⟨.ofSettings {}, {}, .epoch, []⟩ (.create ctx .zero default [])
    (s.manager.resolve ctx s.backend "").1 = .ok (.zero, default) := by
  intro ctx s
  have now : ∀ t ∈ some ctx.now, Instant.epoch.Advances t := by
    rintro t ⟨⟩
    exact .refl _
  have start : Run default ⟨.ofSettings {}, {}, .epoch, []⟩ := .start rfl
  have run : Run default s :=
    start.call (.create ctx .zero default []) now ⟨rfl, rfl, by decide, by decide⟩
  have valid : Settings.check {} = .ok () := rfl
  have later : s.clock.Advances ctx.now := .refl _
  have accepted : ctx.issuer.validate "" = .ok ⟨.zero, "", 0, 0⟩ := rfl
  have calendar : Instant.epoch.add? (SessionSettings.ttl {} + SessionSettings.grace {}) =
      some ⟨21900, 0, by decide, by decide⟩ := by decide
  have sum : Instant.epoch.add? (SessionSettings.ttl {}) =
      some ⟨21600, 0, by decide, by decide⟩ := by decide
  have expiry := Session.expiry_eq_ok.mpr ⟨by decide, sum⟩
  have history : s.history = [⟨.zero, .epoch, .issued default []⟩] := by
    simp [s, ctx, Stage.after, Stage.perform, Call.time?, Call.perform, SessionManager.create,
      SessionManager.ofSettings, Session.start, expiry, Except.map]
  refine (run.resolve_eq_ok_iff valid rfl rfl later ⟨_, calendar⟩ accepted default).mpr ?_
  rw [history]
  refine ⟨⟨⟨.epoch, [], List.mem_cons_self⟩, ?_, .epoch, _, rfl, sum, by decide⟩, rfl⟩
  simp [History.of]

/-- A session that is revoked in a leap second resolves again once its tombstone is swept. -/
theorem Run.resolve_revoked_in_leap_second :
    let cfg : Settings := { session := LeapSecond.settings }
    let ctx := LeapSecond.context LeapSecond.late
    let s := LeapSecond.swept
    cfg.check = .ok () ∧ LeapSecond.opening ≤ LeapSecond.inside ∧
      LeapSecond.inside ≤ LeapSecond.late ∧
      (LeapSecond.stored.manager.invalidate LeapSecond.inside .zero).1 = true ∧
      ¬ (s.history.of .zero).InUse LeapSecond.settings.ttl default LeapSecond.late ∧
      (s.manager.resolve ctx s.backend "").1 = .ok (.zero, default) := by
  intro cfg ctx s
  have answer : (s.manager.resolve ctx s.backend "").1.toOption = some (.zero, default) := by
    decide +kernel
  have revoked : (s.history.of .zero).Revoked :=
    ⟨LeapSecond.inside, History.mem_of.mpr List.mem_cons_self⟩
  refine ⟨rfl, by decide, by decide, by decide +kernel, fun inUse => inUse.unrevoked revoked, ?_⟩
  match (s.manager.resolve ctx s.backend "").1, answer with
  | .ok _, rfl => rfl

end SessionGateway
