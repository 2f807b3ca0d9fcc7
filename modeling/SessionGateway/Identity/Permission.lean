import Std.Data.ExtTreeMap
import SessionGateway.Json.Record
import SessionGateway.Text.Blank
import SessionGateway.Text.Lowercase

/-! Roles granted on resources. A grant of admin allows every role on its resource, and a grant on
the resource named by a star counts on every resource. -/

namespace SessionGateway

open Json (Slot)

inductive Role where
  | read
  | write
  | execute
  | admin
deriving DecidableEq

namespace Role

def all : List Role := [read, write, execute, admin]

theorem mem_all (r : Role) : r ∈ all := by cases r <;> decide

def label : Role → String
  | read => "read"
  | write => "write"
  | execute => "execute"
  | admin => "admin"

def parse (s : String) : Except String Role :=
  let word := Text.lowercase (Text.trim s)
  match all.find? (·.label = word) with
  | some r => .ok r
  | none => .error s!"Unknown access role: {word}"

def toJson (r : Role) : Json := .str r.label

def ofJson? (v : Json) : Option Role :=
  v.label?.bind fun name => all.find? (·.label = name)

end Role

structure RoleSet where
  read : Bool := false
  write : Bool := false
  execute : Bool := false
  admin : Bool := false
deriving DecidableEq

namespace RoleSet

def contains (s : RoleSet) : Role → Bool
  | .read => s.read
  | .write => s.write
  | .execute => s.execute
  | .admin => s.admin

def insert (s : RoleSet) : Role → RoleSet
  | .read => { s with read := true }
  | .write => { s with write := true }
  | .execute => { s with execute := true }
  | .admin => { s with admin := true }

@[simp] theorem contains_insert (s : RoleSet) (r q : Role) :
    (s.insert r).contains q = (r == q || s.contains q) := by
  cases r <;> cases q <;> rfl

def toList (s : RoleSet) : List Role :=
  Role.all.filter s.contains

@[simp] theorem mem_toList (s : RoleSet) (r : Role) : r ∈ s.toList ↔ s.contains r = true := by
  simp [toList, Role.mem_all]

def ofList (rs : List Role) : RoleSet :=
  rs.foldl insert {}

@[simp] theorem ofList_toList (s : RoleSet) : ofList s.toList = s := by
  rcases s with ⟨a, b, c, d⟩
  cases a <;> cases b <;> cases c <;> cases d <;> rfl

def allows (s : RoleSet) (r : Role) : Bool :=
  s.contains r || s.contains .admin

end RoleSet

def anyResource : String := "*"

structure PermissionSet where
  grants : Std.ExtTreeMap String RoleSet
deriving DecidableEq

namespace PermissionSet

def empty : PermissionSet := ⟨∅⟩

instance : Inhabited PermissionSet := ⟨empty⟩

def rolesOn (p : PermissionSet) (resource : String) : RoleSet :=
  p.grants[resource]?.getD {}

def grant (p : PermissionSet) (resource : String) (role : Role) : PermissionSet :=
  ⟨p.grants.insert resource ((p.rolesOn resource).insert role)⟩

def ofGrants (gs : List (String × Role)) : PermissionSet :=
  gs.foldl (fun p g => p.grant g.1 g.2) empty

theorem rolesOn_grant (p : PermissionSet) (resource other : String) (role : Role) :
    (p.grant resource role).rolesOn other =
      if resource = other then (p.rolesOn resource).insert role else p.rolesOn other := by
  simp only [rolesOn, grant, Std.ExtTreeMap.getElem?_insert, Std.LawfulEqCmp.compare_eq_iff_eq]
  split <;> rfl

def allows (p : PermissionSet) (role : Role) (resource : String) : Bool :=
  (p.rolesOn resource).allows role || (p.rolesOn anyResource).allows role

def isEmpty (p : PermissionSet) : Bool :=
  p.grants.isEmpty

/-- Resources in order, and the roles on each with the weakest first. -/
def pairs (p : PermissionSet) : List (String × Role) :=
  p.grants.toList.flatMap fun (resource, roles) => roles.toList.map fun role => (resource, role)

def toJson (p : PermissionSet) : Json :=
  .obj [("grants", .obj (p.grants.toList.map fun (resource, roles) =>
    (resource, .arr (roles.toList.map Role.toJson))))]

/-- Of a resource that is named twice, the last roles count. -/
def grantsOfJson? : Json → Option (Std.ExtTreeMap String RoleSet)
  | .obj ms =>
    ms.foldlM (fun grants (resource, roles) =>
      (Json.list? Role.ofJson? roles).map fun rs => grants.insert resource (RoleSet.ofList rs)) ∅
  | _ => none

def ofJson? (v : Json) : Option PermissionSet := do
  let [grants] ← v.fields? ["grants"] | none
  return ⟨← grants.required grantsOfJson?⟩

end PermissionSet

end SessionGateway
