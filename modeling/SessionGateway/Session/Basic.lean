import SessionGateway.Session.Record
import SessionGateway.Session.Error

/-! Sessions in use. Each access slides the expiry to the time of the access plus the lifetime. -/

namespace SessionGateway

structure Session where
  uuid : Uuid
  principal : Principal
  createdAt : Instant
  lastAccess : Instant
  expiresAt : Instant
  credential : List UInt8
  invalidated : Bool
deriving DecidableEq

namespace Session

/-- The end of a lifetime that begins now; it has to be positive and to stay within the calendar. -/
def expiry (now : Instant) (ttl : Span) : Except SessionError Instant :=
  if ttl.IsPositive then
    match now.add? ttl with
    | some t => .ok t
    | none => .error (.lifetime s!"{ttl.wholeSeconds}s overflows the expiry")
  else .error (.lifetime s!"{ttl.wholeSeconds}s is not positive")

def start (uuid : Uuid) (principal : Principal) (credential : List UInt8) (now : Instant)
    (ttl : Span) : Except SessionError Session :=
  (expiry now ttl).map fun expiresAt =>
    { uuid, principal, createdAt := now, lastAccess := now, expiresAt, credential,
      invalidated := false }

def ofRecord (r : SessionRecord) (principal : Principal) : Session where
  uuid := r.uuid
  principal := principal
  createdAt := r.createdAt
  lastAccess := r.lastAccess
  expiresAt := r.expiresAt
  credential := r.credential
  invalidated := r.invalidated

def toRecord (s : Session) : SessionRecord where
  uuid := s.uuid
  user := s.principal.user
  createdAt := s.createdAt
  lastAccess := s.lastAccess
  expiresAt := s.expiresAt
  credential := s.credential
  invalidated := s.invalidated

def isExpired (s : Session) (now : Instant) : Bool :=
  s.expiresAt ≤ now

def touch (s : Session) (now : Instant) (ttl : Span) : Except SessionError Session :=
  (expiry now ttl).map fun expiresAt => { s with lastAccess := now, expiresAt }

def invalidate (s : Session) : Session :=
  { s with invalidated := true }

end Session

structure IssuedSession where
  session : Session
  token : String

end SessionGateway
