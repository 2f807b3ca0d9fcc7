import SessionGateway.Identity.Permission
import SessionGateway.Clock.Rfc3339

/-! An authenticated identity, and what an authenticator knows of one before it exists. -/

namespace SessionGateway

open Json (Slot)

def Instant.toJson (t : Instant) : Json := .str (Rfc3339.render t)

def Instant.ofJson? (v : Json) : Option Instant := v.text?.bind Rfc3339.parse?

structure Principal where
  user : String
  longName : String
  permissions : PermissionSet
  roles : List String
  createdAt : Instant
  lastLogin : Option Instant
deriving DecidableEq

namespace Principal

def named (user : String) (createdAt : Instant) : Principal :=
  { user, longName := user, permissions := .empty, roles := [], createdAt, lastLogin := none }

instance : Inhabited Principal := ⟨named "" .epoch⟩

def hasRole (p : Principal) (role : String) : Bool :=
  p.roles.contains role

def canAccess (p : Principal) (role : Role) (resource : String) : Bool :=
  p.permissions.allows role resource

def toJson (p : Principal) : Json :=
  .obj [("user", .str p.user), ("long_name", .str p.longName),
    ("permissions", p.permissions.toJson), ("roles", .arr (p.roles.map .str)),
    ("created_at", p.createdAt.toJson), ("last_login", .ofOption Instant.toJson p.lastLogin)]

def ofJson? (v : Json) : Option Principal := do
  let [user, longName, permissions, roles, createdAt, lastLogin] ←
    v.fields? ["user", "long_name", "permissions", "roles", "created_at", "last_login"] | none
  some {
    user := ← user.required Json.text?
    longName := ← longName.required Json.text?
    permissions := ← permissions.required PermissionSet.ofJson?
    roles := ← roles.required (Json.list? Json.text?)
    createdAt := ← createdAt.required Instant.ofJson?
    lastLogin := ← lastLogin.optional Instant.ofJson? }

end Principal

/-- What an authenticator says about a user. -/
structure Seed where
  user : String
  longName : Option String := none
  roles : List String := []
  permissions : PermissionSet := .empty
deriving DecidableEq

end SessionGateway
