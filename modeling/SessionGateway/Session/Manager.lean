import SessionGateway.Session.Cache
import SessionGateway.Persistence.WriteBehind
import SessionGateway.Settings.Basic

/-! The life of sessions. They are issued, resolved and invalidated against the cache; every change
is offered to the write queue, and the store is only read for a session that is not cached. -/

namespace SessionGateway

structure SessionContext where
  issuer : TokenIssuer
  principals : String → Option Principal
  now : Instant

structure SessionManager where
  settings : SessionSettings
  cache : SessionCache := {}
  writes : WriteBehind
deriving DecidableEq

namespace SessionManager

def ofSettings (s : SessionSettings) : SessionManager where
  settings := s
  writes := { queue := .ofCapacity s.queueCapacity.toNat, period := s.drainTickSecs.toNat * 1000 }

/-- A manager whose queue can be made. -/
def start (s : SessionSettings) : Except Crash SessionManager :=
  (WriteQueue.make s.queueCapacity.toNat).map fun queue =>
    { ofSettings s with writes.queue := queue }

def offer (m : SessionManager) (op : WriteOp) : SessionManager :=
  { m with writes.queue := (m.writes.queue.enqueue op).2 }

/-- Issues a session under a fresh identifier. The token comes first, so that nothing is left behind
if there is none. -/
def create (m : SessionManager) (ctx : SessionContext) (uuid : Uuid) (principal : Principal)
    (credential : List UInt8) : Except SessionError IssuedSession × SessionManager :=
  match Session.start uuid principal credential ctx.now m.settings.ttl with
  | .error e => (.error e, m)
  | .ok session =>
    match ctx.issuer.issue (.issued uuid principal.user ctx.now ctx.issuer.lifetime) with
    | .error e => (.error (.invalidToken e), m)
    | .ok token =>
      (.ok { session, token },
        { m with cache := m.cache.insert session }.offer (.put session.toRecord))

/-- The session of a stored record, if it can be used. -/
def admissible (ctx : SessionContext) (uuid : Uuid) (r : SessionRecord) :
    Except SessionError Session :=
  if r.invalidated then .error (.invalidated uuid)
  else if r.isExpired ctx.now then .error (.expired uuid)
  else
    match ctx.principals r.user with
    | none => .error (.unknownPrincipal uuid r.user)
    | some principal => .ok (.ofRecord r principal)

def loaded (ctx : SessionContext) (uuid : Uuid) :
    Reply (Option SessionRecord) → Except SessionError Session
  | .failed fault => .error (.storeUnavailable fault.reason)
  | .done none => .error (.notFound uuid)
  | .done (some r) => admissible ctx uuid r

/-- The cached session, or else the stored one, which is then cached. -/
def find (m : SessionManager) (ctx : SessionContext) (b : Backend) (uuid : Uuid) :
    Except SessionError Session × SessionManager × Backend :=
  match m.cache.get? uuid with
  | some s => (.ok s, m, b)
  | none =>
    let (reply, b) := b.get uuid
    match loaded ctx uuid reply with
    | .error e => (.error e, m, b)
    | .ok s =>
      match m.cache.insertLoaded s with
      | (.refused, cache) => (.error (.invalidated uuid), { m with cache }, b)
      | (.present present, cache) => (.ok present, { m with cache }, b)
      | (.added, cache) => (.ok s, { m with cache }, b)

def accessed (m : SessionManager) (ctx : SessionContext) (claims : Claims) (s : Session) :
    Except SessionError Session :=
  if s.invalidated then .error (.invalidated claims.sid)
  else if s.isExpired ctx.now then .error (.expired claims.sid)
  else if s.principal.user ≠ claims.sub then
    .error (.invalidToken (.invalid "subject mismatch"))
  else s.touch ctx.now m.settings.ttl

def resolveClaims (m : SessionManager) (ctx : SessionContext) (b : Backend) (claims : Claims) :
    Except SessionError (Uuid × Principal) × SessionManager × Backend :=
  if m.cache.isRevoked claims.sid then (.error (.invalidated claims.sid), m, b)
  else
    match m.find ctx b claims.sid with
    | (.error e, m, b) => (.error e, m, b)
    | (.ok s, m, b) =>
      match m.accessed ctx claims s with
      | .error e => (.error e, m, b)
      | .ok s =>
        (.ok (claims.sid, s.principal),
          { m with cache := m.cache.insert s }.offer (.put s.toRecord), b)

def resolve (m : SessionManager) (ctx : SessionContext) (b : Backend) (token : String) :
    Except SessionError (Uuid × Principal) × SessionManager × Backend :=
  match ctx.issuer.validate token with
  | .error e => (.error (.invalidToken e), m, b)
  | .ok claims => m.resolveClaims ctx b claims

def invalidation (m : SessionManager) (uuid : Uuid) : Option Session → WriteOp
  | some s =>
    match m.settings.retention with
    | .hardDelete => .delete uuid
    | .softInvalidate => .put s.invalidate.toRecord
  | none =>
    match m.settings.retention with
    | .hardDelete => .delete uuid
    | .softInvalidate => .flag uuid

/-- Whether the session was not revoked before. -/
def invalidate (m : SessionManager) (now : Instant) (uuid : Uuid) : Bool × SessionManager :=
  match m.cache.revoke? uuid now with
  | none => (false, m)
  | some cache =>
    let session := cache.get? uuid
    let cache := session.elim cache fun s => cache.insert s.invalidate
    (true, { m with cache }.offer (m.invalidation uuid session))

def logout (m : SessionManager) (ctx : SessionContext) (token : String) :
    Except SessionError Uuid × SessionManager :=
  match ctx.issuer.validate token with
  | .error e => (.error (.invalidToken e), m)
  | .ok claims => (.ok claims.sid, (m.invalidate ctx.now claims.sid).2)

def invalidateAll (m : SessionManager) (now : Instant) : List Uuid → Nat × SessionManager
  | [] => (0, m)
  | u :: us =>
    let (fresh, m) := m.invalidate now u
    let (count, m) := m.invalidateAll now us
    (if fresh then count + 1 else count, m)

def sortedUuids (us : List Uuid) : List Uuid :=
  (us.foldl (fun (set : Std.ExtTreeMap Uuid Unit) u => set.insert u ()) ∅).keys

/-- Invalidates every session of a user, cached or stored. If the store cannot be scanned the cached
ones are; a crash of the scan leaves everything as it is. -/
def invalidateUser (m : SessionManager) (now : Instant) (b : Backend) (user : String) :
    Except SessionError Nat × SessionManager × Backend :=
  let cached := m.cache.sessionsOf user
  match b.range with
  | (.failed (.crash text), b) => (.error (.storeUnavailable (poolCrash text)), m, b)
  | (.failed (.error _), b) =>
    let (count, m) := m.invalidateAll now (sortedUuids cached)
    (.ok count, m, b)
  | (.done records, b) =>
    let stored := (records.filter (·.user = user)).map (·.uuid)
    let (count, m) := m.invalidateAll now (sortedUuids (cached ++ stored))
    (.ok count, m, b)

/-- A tombstone outlives every expiry that its session could still have in the store. -/
def sweep (m : SessionManager) (now : Instant) (reached : Uuid → Bool := fun _ => false) :
    Except Crash SweepReport × SessionManager :=
  let grace := m.settings.grace
  let (report, cache) := m.cache.sweep now grace (m.settings.ttl + grace) reached
  (report, { m with cache })

def health (m : SessionManager) : PersistenceHealth :=
  m.writes.queue.health

end SessionManager

structure SessionStats where
  cached : Nat
  revoked : Nat
deriving DecidableEq

def SessionManager.stats (m : SessionManager) : SessionStats :=
  ⟨m.cache.live.size, m.cache.revoked.size⟩

end SessionGateway
