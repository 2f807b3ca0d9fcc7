import SessionGateway.Gateway.Basic
import SessionGateway.Proofs.Session.Throughout

/-! What becomes of a gateway in service, over restarts too. Identifiers are not used twice, so each
session belongs to one user. Its record names that user wherever it is, in the cache, on its way to
the store or there, provided that the principals come from sources that answer for the user who was
asked for. -/

namespace SessionGateway

theorem Backend.store_flush (b : Backend) : b.flush.2.store = b.store := by
  unfold flush
  split <;> rfl

/-- A principal is known by its own name. -/
def Directory.Faithful (d : Directory) : Prop :=
  ∀ name p, d.resolve name = some p → p.user = name

namespace Directory.Faithful

variable {d : Directory} (h : d.Faithful)

include h

theorem remember (p : Principal) : (d.remember p).Faithful := by
  intro name q known
  rw [resolve_remember] at known
  split at known
  · next same =>
    cases known
    exact same
  · exact h name q known

theorem forget (user : String) : (d.forget user).2.Faithful := by
  intro name q known
  rw [resolve_forget] at known
  split at known
  · cases known
  · exact h name q known

theorem user_login (seed : Seed) (now : Instant) : (d.login seed now).1.user = seed.user := by
  change (d.admitted seed now).user = seed.user
  unfold admitted
  split
  · next p known => exact h seed.user p known
  · rfl

theorem login (seed : Seed) (now : Instant) : (d.login seed now).2.Faithful := by
  intro name q known
  rw [resolve_login] at known
  split at known
  · next same =>
    cases known
    exact (h.user_login seed now).trans same
  · exact h name q known

end Directory.Faithful

def GatewayOptions.Faithful (o : GatewayOptions) : Prop :=
  ∀ source ∈ o.source, ∀ name p, source name = some p → p.user = name

/-- The session is that user's to whom the identifier belongs. -/
def SessionRecord.BelongsTo (owner : Uuid → String) (r : SessionRecord) : Prop :=
  r.user = owner r.uuid

theorem SessionRecord.lasting_belongsTo (owner : Uuid → String) :
    SessionRecord.Lasting (·.BelongsTo owner) :=
  ⟨fun _ mine => mine, fun _ _ mine => mine⟩

inductive GatewayCall where
  | login (uuid : Uuid) (login : LoginRequest)
  | openSession (uuid : Uuid) (principal : Principal)
  | logout (token : String)
  | resolve (token : String)
  | invalidate (uuid : Uuid)
  | invalidateUser (user : String)
  | sweep (reached : Uuid → Bool)
  | flush
  | elapse (millis : Nat) (reached : Uuid → Bool)
  | trigger
  | close
  | remember (principal : Principal)
  | forget (user : String)
  | setClocks (now : Instant) (wall : Int)

namespace Gateway

def after (g : Gateway) : GatewayCall → Gateway
  | .login u login => (g.login u login).2
  | .openSession u p => (g.openSession u p).2
  | .logout token => (g.logout token).2
  | .resolve token => (g.resolve token).2
  | .invalidate u => (g.invalidate u).2
  | .invalidateUser user => (g.invalidateUser user).2
  | .sweep reached => (g.sweep reached).2
  | .flush => g.flush.2
  | .elapse millis reached => g.elapse millis reached
  | .trigger => g.trigger.2
  | .close => g.close.2
  | .remember p => { g with host.directory := g.host.directory.remember p }
  | .forget user => { g with host.directory := (g.host.directory.forget user).2 }
  | .setClocks now wall => { g with host.now := now, host.wall := wall }

end Gateway

/-- A session is issued to the user whom its identifier belongs to, and no name is longer than a
machine word can count. -/
def GatewayCall.Legal (owner : Uuid → String) (g : Gateway) : GatewayCall → Prop
  | .login u request => ∀ seed, (g.seedOf request).1 = some seed →
    seed.user = owner u ∧ seed.user.utf8ByteSize < 2 ^ 64
  | .openSession u p => p.user = owner u ∧ p.user.utf8ByteSize < 2 ^ 64
  | _ => True

namespace Gateway

/-- The gateways that calls and restarts lead to. What issued the tokens may change with a restart,
and so may the directory; the store stays. -/
inductive Served (owner : Uuid → String) : Gateway → Prop
  | start {o : GatewayOptions} {host : Host} {g : Gateway} (started : start o host = .ok g)
    (faithful : o.Faithful) (known : host.directory.Faithful)
    (stored : host.backend.store.Reads (·.BelongsTo owner)) : Served owner g
  | call {g : Gateway} (served : Served owner g) (c : GatewayCall) (legal : c.Legal owner g) :
    Served owner (g.after c)
  | restart {g g' : Gateway} (served : Served owner g) {o : GatewayOptions} {d : Directory}
    (faithful : o.Faithful) (known : d.Faithful)
    (started : Gateway.start o { g.retire.2 with directory := d } = .ok g') : Served owner g'

/-- Every record names the user to whom its session belongs. -/
structure Owned (owner : Uuid → String) (g : Gateway) : Prop where
  sessions : g.sessions.Throughout (·.BelongsTo owner) (fun _ => True) g.host.backend
  directory : g.host.directory.Faithful
  source : g.options.Faithful

namespace Owned

variable {owner : Uuid → String} {g : Gateway}

theorem start {o : GatewayOptions} {host : Host} (started : start o host = .ok g)
    (faithful : o.Faithful) (known : host.directory.Faithful)
    (stored : host.backend.store.Reads (·.BelongsTo owner)) : g.Owned owner := by
  unfold Gateway.start at started
  split at started
  · cases started
  · cases started
  · next m _ made =>
    obtain rfl := SessionManager.start_eq_ok made
    cases started
    have fresh : SessionManager.Throughout (·.BelongsTo owner) (fun _ => True)
        (.ofSettings o.settings.session) host.backend := .ofSettings _ stored
    refine ⟨⟨fresh.live, fresh.revoked, ?_⟩, ?_, faithful⟩
    · dsimp only
      split <;> exact fresh.writes
    · dsimp only
      split <;> exact known

theorem principals (h : g.Owned owner) {name : String} {p : Principal}
    (known : g.context.principals name = some p) : p.user = name := by
  change g.options.source.getD g.host.directory.resolve name = some p at known
  cases source : g.options.source with
  | none =>
    rw [source] at known
    exact h.directory name p known
  | some source' =>
    rw [source] at known
    exact h.source source' source name p known

theorem passes (h : g.Owned owner) (ttl : Span) : g.context.Passes ttl (·.BelongsTo owner) := by
  refine ⟨fun r p fits mine known => ?_, fun r e mine _ => mine⟩
  rw [h.principals known]
  exact ⟨fits.user, mine⟩

theorem withSessions (h : g.Owned owner) {m : SessionManager} {b : Backend}
    (sessions : m.Throughout (·.BelongsTo owner) (fun _ => True) b) :
    Owned owner { g with sessions := m, host.backend := b } :=
  ⟨sessions, h.directory, h.source⟩

theorem withDirectory (h : g.Owned owner) {d : Directory} (known : d.Faithful) :
    Owned owner { g with host.directory := d } :=
  ⟨h.sessions, known, h.source⟩

theorem create (h : g.Owned owner) {u : Uuid} {p : Principal} (mine : p.user = owner u)
    (sized : p.user.utf8ByteSize < 2 ^ 64) : (g.create u p).2.Owned owner :=
  h.withSessions (h.sessions.create (SessionRecord.lasting_belongsTo owner) g.context sized
    (by decide) fun _ _ => mine)

theorem login (h : g.Owned owner) {u : Uuid} {request : LoginRequest}
    (legal : (GatewayCall.login u request).Legal owner g) : (g.login u request).2.Owned owner := by
  unfold Gateway.login
  cases recognized : g.seedOf request with
  | mk seed calls =>
    cases seed with
    | none => exact h
    | some seed =>
      obtain ⟨mine, sized⟩ := legal seed (by rw [recognized])
      have user := h.directory.user_login seed g.host.now
      have enrolled := h.withDirectory (h.directory.login seed g.host.now)
      have created := enrolled.create (user.trans mine) (user ▸ sized)
      dsimp only
      split <;> next answer => rwa [answer] at created

theorem sweep (h : g.Owned owner) (reached : Uuid → Bool) : (g.sweep reached).2.Owned owner :=
  h.withSessions (h.sessions.sweep g.host.now reached)

theorem periodicSweep (h : g.Owned owner) (reached : Uuid → Bool) :
    (g.periodicSweep reached).Owned owner := by
  have swept := h.sweep reached
  unfold Gateway.periodicSweep
  split
  · exact h
  · split
    · exact h
    · split
      all_goals
        next answer =>
          rw [answer] at swept
          exact ⟨swept.sessions, swept.directory, swept.source⟩

theorem flush (h : g.Owned owner) : g.flush.2.Owned owner :=
  h.withSessions ⟨h.sessions.live, h.sessions.revoked,
    WriteBehind.carries_flush h.sessions.writes (fun _ mine => mine) g.host.elapsed⟩

theorem elapse (h : g.Owned owner) (millis : Nat) (reached : Uuid → Bool) :
    (g.elapse millis reached).Owned owner := by
  have later : Owned owner { g with host.elapsed := g.host.elapsed + millis } :=
    ⟨h.sessions, h.directory, h.source⟩
  have swept := later.periodicSweep reached
  exact swept.withSessions ⟨swept.sessions.live, swept.sessions.revoked,
    WriteBehind.carries_run swept.sessions.writes (fun _ mine => mine) _⟩

theorem trigger (h : g.Owned owner) : g.trigger.2.Owned owner :=
  ⟨h.sessions, h.directory, h.source⟩

theorem close (h : g.Owned owner) : g.close.2.Owned owner := by
  have stopped : Owned owner { g.trigger.2 with shutdown := g.trigger.2.shutdown.stopAll.2 } :=
    ⟨h.sessions, h.directory, h.source⟩
  have flushed := stopped.flush
  unfold Gateway.close
  dsimp only
  generalize Gateway.flush _ = left at flushed ⊢
  exact ⟨flushed.sessions.read left.2.host.backend.store_flush, flushed.directory, flushed.source⟩

theorem logout (h : g.Owned owner) (token : String) : (g.logout token).2.Owned owner := by
  have ended : (g.sessions.logout g.context token).2.Throughout (·.BelongsTo owner) (fun _ => True)
      g.host.backend :=
    h.sessions.logout (SessionRecord.lasting_belongsTo owner) trivial token
  unfold Gateway.logout
  split <;> next answer =>
    rw [answer] at ended
    exact h.withSessions ended

theorem after (h : g.Owned owner) {c : GatewayCall} (legal : c.Legal owner g) :
    (g.after c).Owned owner := by
  cases c with
  | login u request => exact h.login legal
  | openSession u p =>
    exact (h.withDirectory (h.directory.remember p)).create legal.1 legal.2
  | logout token => exact h.logout token
  | resolve token =>
    exact h.withSessions (h.sessions.resolve (h.passes _) (SessionRecord.lasting_belongsTo owner)
      token)
  | invalidate u =>
    exact h.withSessions (h.sessions.invalidate (SessionRecord.lasting_belongsTo owner) trivial u)
  | invalidateUser user =>
    exact h.withSessions (h.sessions.invalidateUser (SessionRecord.lasting_belongsTo owner) trivial
      user)
  | sweep reached => exact h.sweep reached
  | flush => exact h.flush
  | elapse millis reached => exact h.elapse millis reached
  | trigger => exact h.trigger
  | close => exact h.close
  | remember p => exact h.withDirectory (h.directory.remember p)
  | forget user => exact h.withDirectory (h.directory.forget user)
  | setClocks now wall => exact ⟨h.sessions, h.directory, h.source⟩

theorem retire (h : g.Owned owner) : g.retire.2.backend.store.Reads (·.BelongsTo owner) :=
  (WriteBehind.carries_close h.close.sessions.writes (fun _ mine => mine) _).stored

end Owned

theorem Served.owned {owner : Uuid → String} {g : Gateway} (served : g.Served owner) :
    g.Owned owner := by
  induction served with
  | start started faithful known stored => exact .start started faithful known stored
  | call _ c legal ih => exact ih.after legal
  | restart _ faithful known started ih => exact .start started faithful known ih.retire

end Gateway

end SessionGateway
