import SessionGateway.Token.Claims

/-! The stored form of a session. It names its user only; the principal is looked up when the
session is loaded. -/

namespace SessionGateway

structure SessionRecord where
  uuid : Uuid
  user : String
  createdAt : Instant
  lastAccess : Instant
  expiresAt : Instant
  credential : List UInt8
  invalidated : Bool
deriving DecidableEq

namespace SessionRecord

def isExpired (r : SessionRecord) (now : Instant) : Bool :=
  r.expiresAt ≤ now

def isLive (r : SessionRecord) (now : Instant) : Bool :=
  !r.invalidated && !r.isExpired now

def flagged (r : SessionRecord) : SessionRecord :=
  { r with invalidated := true }

def toJson (r : SessionRecord) : Json :=
  .obj [("uuid", r.uuid.toJson), ("user", .str r.user), ("created_at", r.createdAt.toJson),
    ("last_access", r.lastAccess.toJson), ("expires_at", r.expiresAt.toJson),
    ("credential", .ofBytes r.credential), ("invalidated", .bool r.invalidated)]

def ofJson? (v : Json) : Option SessionRecord := do
  let [uuid, user, createdAt, lastAccess, expiresAt, credential, invalidated] ← v.fields? ["uuid",
    "user", "created_at", "last_access", "expires_at", "credential", "invalidated"] | none
  some {
    uuid := ← uuid.required Uuid.ofJson?
    user := ← user.required Json.text?
    createdAt := ← createdAt.required Instant.ofJson?
    lastAccess := ← lastAccess.required Instant.ofJson?
    expiresAt := ← expiresAt.required Instant.ofJson?
    credential := ← credential.withDefault [] Json.bytes?
    invalidated := ← invalidated.required Json.bool? }

end SessionRecord

end SessionGateway
