import SessionGateway.Proofs.Gateway.Login
import SessionGateway.Proofs.Gateway.Served

/-! What the audit is told of a logout. The user is looked up in the cache once the session has been
revoked. A session that is only stored, or that a sweep has taken out of the cache, is revoked all
the same, and then the event names nobody, although the token does. -/

namespace SessionGateway

/-- Whom the cache knows a session to belong to; nobody if it is not cached. -/
def SessionManager.userOf (m : SessionManager) (u : Uuid) : String :=
  (m.cache.get? u).elim "" fun x => x.principal.user

theorem SessionManager.userOf_invalidate {m : SessionManager} {u : Uuid}
    (key : ∀ x, m.cache.get? u = some x → x.uuid = u) (now : Instant) :
    (m.invalidate now u).2.userOf u = m.userOf u := by
  cases revoked : m.cache.isRevoked u with
  | true => rw [invalidate_of_revoked revoked]
  | false =>
    rw [invalidate_of_free revoked]
    change ((m.cache.bury u now).get? u).elim "" _ = _
    rw [SessionCache.get?_bury key, if_pos rfl, userOf]
    cases m.cache.get? u <;> rfl

namespace Gateway

theorem audit_login (g : Gateway) (u : Uuid) (request : LoginRequest) :
    (g.login u request).2.options = g.options ∧ (g.login u request).2.audit = g.audit := by
  cases found : g.seedOf request with
  | mk seed calls =>
    cases seed with
    | none =>
      rw [g.login_of_unknown u found]
      exact ⟨rfl, rfl⟩
    | some seed =>
      rcases g.login_of_known u found with ⟨e, ends⟩ | ⟨issued, sessions, -, ends⟩
      · rw [ends]
        exact ⟨rfl, rfl⟩
      · rw [ends]
        exact ⟨rfl, rfl⟩

/-- A logout with a valid token hands each auditor one event, of a logout and with the session of
the token. It names the user to whom the token was issued if the session is cached, and nobody if it
is not. Any other logout is refused and not audited. -/
theorem logout_audited {owner : Uuid → String} {g : Gateway} (served : g.Served owner)
    (token : String) :
    match g.context.issuer.validate token with
    | .error e => (g.logout token).1 = (.error (.session (.invalidToken e)), [])
    | .ok claims => claims.sub = owner claims.sid →
      let user := if (g.sessions.cache.get? claims.sid).isSome then claims.sub else ""
      (g.logout token).1 =
        (.ok claims.sid, g.audit.deliveries (.login "logout" .logout (some claims.sid) user)) := by
  have live := served.owned.sessions.live
  unfold Gateway.logout SessionManager.logout
  cases valid : g.context.issuer.validate token with
  | error e => rfl
  | ok claims =>
    intro issued user
    have key : ∀ x, g.sessions.cache.get? claims.sid = some x → x.uuid = claims.sid :=
      fun x cached => (live claims.sid x cached).1
    have named : (g.sessions.invalidate g.context.now claims.sid).2.userOf claims.sid = user := by
      rw [SessionManager.userOf_invalidate key, SessionManager.userOf]
      cases cached : g.sessions.cache.get? claims.sid with
      | none => simp [user, cached]
      | some x =>
        obtain ⟨same, -, -, mine⟩ := live claims.sid x cached
        have mine : x.principal.user = owner x.uuid := mine
        simp [user, cached, mine, same, issued]
    rw [← named]
    rfl

theorem logout_unnamed_after_restart :
    let auditor : Auditor := ⟨"recorder", fun _ => .ok ()⟩
    let recorder : StaticModule :=
      ⟨⟨"recorder", "recorder", "1", { audit := true }, .ok ()⟩, [.audit auditor]⟩
    let o : GatewayOptions := {
      opener := ⟨fun _ => .ok ["recorder.so"], fun _ => .ok recorder.handle⟩
      issuer := some ⟨fun _ => .ok "", fun _ => .ok ⟨.zero, "bob", 0, 0⟩, .ofSeconds 1⟩
      verifier := some fun login => some { user := login.user } }
    let event (user : String) : PluginCall :=
      .audit "recorder" (.login "logout" .logout (some .zero) user)
    ∃ g g', start o { now := .epoch, wall := 0 } = .ok g ∧
      let active := g.after (.login .zero { user := "bob", secret := "pw" })
      start o active.retire.2 = .ok g' ∧
      (g'.host.backend.store.active.map fun r => (r.uuid, r.user)) = [(.zero, "bob")] ∧
      (active.logout "").1.2 = [event "bob"] ∧ (g'.logout "").1.2 = [event ""] := by
  intro auditor recorder o event
  obtain ⟨g, started⟩ : ∃ g, start o { now := .epoch, wall := 0 } = .ok g := ⟨_, rfl⟩
  let active := g.after (.login .zero { user := "bob", secret := "pw" })
  obtain ⟨g', restarted⟩ : ∃ g', start o active.retire.2 = .ok g' := ⟨_, rfl⟩
  have known : (g.seedOf { user := "bob", secret := "pw" }).1 = some { user := "bob" } := by
    cases started; decide +kernel
  have stored : (g'.host.backend.store.active.map fun r => (r.uuid, r.user)) =
      [(.zero, "bob")] := by
    cases started; cases restarted; decide +kernel
  have cached : (active.sessions.cache.get? .zero).isSome = true := by
    cases started; decide +kernel
  have gone : (g'.sessions.cache.get? .zero).isSome = false := by
    cases started; cases restarted; decide +kernel
  have faithful : o.Faithful := nofun
  have served : active.Served fun _ => "bob" := by
    have empty : Directory.Faithful {} := fun name p found => by simp [Directory.resolve] at found
    refine .call (.start started faithful empty SessionStore.reads_empty) _ fun seed found => ?_
    obtain rfl : { user := "bob" } = seed := Option.some.inj (known.symm.trans found)
    exact ⟨rfl, by decide⟩
  have served' : g'.Served fun _ => "bob" :=
    .restart served (d := active.retire.2.directory) faithful served.owned.close.directory restarted
  have told {h : Gateway} (served : h.Served fun _ => "bob") (options : h.options = o)
      (auditors : h.audit.auditors = [("recorder", auditor)]) : (h.logout "").1.2 =
        [event (if (h.sessions.cache.get? .zero).isSome then "bob" else "")] := by
    have audited := logout_audited served ""
    have valid : h.context.issuer.validate "" = .ok ⟨.zero, "bob", 0, 0⟩ := by
      rw [context, options]
      rfl
    rw [valid] at audited
    rw [audited rfl, AuditChain.deliveries, auditors]
    rfl
  obtain ⟨options, audit⟩ := g.audit_login .zero { user := "bob", secret := "pw" }
  have auditors : g.audit.auditors = [("recorder", auditor)] := by cases started; rfl
  have named := told served (options.trans (by cases started; rfl))
    ((congrArg _ audit).trans auditors)
  have unnamed := told served' (by cases restarted; rfl) (by cases restarted; rfl)
  rw [cached] at named
  rw [gone] at unnamed
  exact ⟨g, g', started, restarted, stored, named, unnamed⟩

end Gateway

end SessionGateway
