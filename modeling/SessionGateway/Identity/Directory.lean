import SessionGateway.Identity.Principal

/-! The principals known by name. The first login of a user provisions a principal from the seed and
the default roles; a later one keeps its name and birth, adds the seed's roles, and takes over the
seed's permissions unless there are none. -/

namespace SessionGateway

/-- `base`, followed by the members of `extra` that are not there yet, each once. -/
def mergeRoles (base : List String) : List String → List String
  | [] => base
  | role :: extra => mergeRoles (if role ∈ base then base else base ++ [role]) extra

structure Directory where
  defaultRoles : List String := []
  principals : Std.ExtTreeMap String Principal := ∅

namespace Directory

instance : Inhabited Directory := ⟨{}⟩

def resolve (d : Directory) (user : String) : Option Principal :=
  d.principals[user]?

def size (d : Directory) : Nat :=
  d.principals.size

def provisioned (d : Directory) (seed : Seed) (now : Instant) : Principal where
  user := seed.user
  longName := seed.longName.getD seed.user
  permissions := seed.permissions
  roles := mergeRoles d.defaultRoles seed.roles
  createdAt := now
  lastLogin := some now

def refreshed (p : Principal) (seed : Seed) (now : Instant) : Principal :=
  { p with
    roles := mergeRoles p.roles seed.roles
    permissions := if seed.permissions.isEmpty then p.permissions else seed.permissions
    lastLogin := some now }

def admitted (d : Directory) (seed : Seed) (now : Instant) : Principal :=
  match d.resolve seed.user with
  | some p => refreshed p seed now
  | none => d.provisioned seed now

def login (d : Directory) (seed : Seed) (now : Instant) : Principal × Directory :=
  let p := d.admitted seed now
  (p, { d with principals := d.principals.insert seed.user p })

def remember (d : Directory) (p : Principal) : Directory :=
  { d with principals := d.principals.insert p.user p }

def forget (d : Directory) (user : String) : Bool × Directory :=
  (d.principals.contains user, { d with principals := d.principals.erase user })

theorem resolve_remember (d : Directory) (p : Principal) (user : String) :
    (d.remember p).resolve user = if p.user = user then some p else d.resolve user := by
  simp only [resolve, remember, Std.ExtTreeMap.getElem?_insert, Std.LawfulEqCmp.compare_eq_iff_eq]

theorem resolve_login (d : Directory) (seed : Seed) (now : Instant) (user : String) :
    (d.login seed now).2.resolve user =
      if seed.user = user then some (d.admitted seed now) else d.resolve user := by
  simp only [resolve, login, Std.ExtTreeMap.getElem?_insert, Std.LawfulEqCmp.compare_eq_iff_eq]

theorem resolve_forget (d : Directory) (name user : String) :
    (d.forget name).2.resolve user = if name = user then none else d.resolve user := by
  simp only [resolve, forget, Std.ExtTreeMap.getElem?_erase, Std.LawfulEqCmp.compare_eq_iff_eq]

end Directory

end SessionGateway
