import Mathlib.Data.List.DropRight
import SessionGateway.Identity.Directory

/-! What a directory knows of a user. Only the calls that name the user count, and of those only the
ones since the user was last forgotten. They start from the principal that was remembered last, or
else from the one that the first login provisions. The logins after that add the roles that are new,
and the last of them that brings permissions replaces the permissions. -/

namespace SessionGateway

/-- The members of `extra` that are not in `base`, in the order of their first appearance and each
once. -/
def newRoles (base extra : List String) : List String :=
  (extra.filter (· ∉ base)).eraseDups

theorem mergeRoles_eq (base extra : List String) :
    mergeRoles base extra = base ++ newRoles base extra := by
  induction extra generalizing base with
  | nil => simp [mergeRoles, newRoles]
  | cons role extra ih =>
    rw [mergeRoles, ih]
    by_cases known : role ∈ base
    · simp [newRoles, known]
    · have rest : newRoles base (role :: extra) = role :: newRoles (base ++ [role]) extra := by
        rw [newRoles, List.filter_cons_of_pos (by simpa using known), List.eraseDups_cons,
          List.filter_filter, newRoles]
        congr 3
        funext other
        by_cases same : other = role <;> simp [same, known]
      rw [if_neg known, rest, List.append_assoc, List.singleton_append]

theorem mergeRoles_append (base xs ys : List String) :
    mergeRoles base (xs ++ ys) = mergeRoles (mergeRoles base xs) ys := by
  induction xs generalizing base with
  | nil => rfl
  | cons role xs ih => exact ih _

structure Arrival where
  seed : Seed
  time : Instant

inductive DirectoryCall where
  | login (arrival : Arrival)
  | remember (principal : Principal)
  | forget (user : String)

namespace DirectoryCall

def user : DirectoryCall → String
  | login a => a.seed.user
  | remember p => p.user
  | forget user => user

def isForget : DirectoryCall → Bool
  | forget _ => true
  | _ => false

/-- The calls that name the user since the user was last forgotten. -/
def recent (user : String) (calls : List DirectoryCall) : List DirectoryCall :=
  (calls.filter (·.user = user)).rtakeWhile (!·.isForget)

theorem user_of_mem_recent {user : String} {calls : List DirectoryCall} {c : DirectoryCall}
    (h : c ∈ recent user calls) : c.user = user := by
  have named := (List.rtakeWhile_suffix _ _).mem h
  simpa using (List.mem_filter.mp named).2

end DirectoryCall

def Arrival.principal (a : Arrival) (defaultRoles : List String) : Principal where
  user := a.seed.user
  longName := a.seed.longName.getD a.seed.user
  permissions := a.seed.permissions
  roles := defaultRoles ++ newRoles defaultRoles a.seed.roles
  createdAt := a.time
  lastLogin := some a.time

def Principal.grown (b : Principal) (later : List Arrival) : Principal where
  user := b.user
  longName := b.longName
  permissions := ((later.filter (!·.seed.permissions.isEmpty)).getLast?.map
    (·.seed.permissions)).getD b.permissions
  roles := b.roles ++ newRoles b.roles (later.flatMap (·.seed.roles))
  createdAt := b.createdAt
  lastLogin := (later.getLast?.map (·.time)).or b.lastLogin

theorem Principal.grown_nil (b : Principal) : b.grown [] = b := by
  simp [grown, newRoles]

theorem Principal.grown_concat (b : Principal) (later : List Arrival) (a : Arrival) :
    b.grown (later ++ [a]) = Directory.refreshed (b.grown later) a.seed a.time := by
  cases keeps : a.seed.permissions.isEmpty <;>
    simp [grown, Directory.refreshed, keeps, ← mergeRoles_eq, mergeRoles_append]

namespace Directory

def perform (d : Directory) : DirectoryCall → Directory
  | .login a => (d.login a.seed a.time).2
  | .remember p => d.remember p
  | .forget user => (d.forget user).2

def ofHistory (defaultRoles : List String) (calls : List DirectoryCall) : Directory :=
  calls.foldl perform { defaultRoles }

def told (defaultRoles : List String) (known : Option Principal) :
    DirectoryCall → Option Principal
  | .login a => (known.map fun p => refreshed p a.seed a.time).or (a.principal defaultRoles)
  | .remember p => p
  | .forget _ => none

theorem admitted_eq (d : Directory) (a : Arrival) :
    some (d.admitted a.seed a.time) =
      ((d.resolve a.seed.user).map fun p => refreshed p a.seed a.time).or
        (a.principal d.defaultRoles) := by
  unfold admitted
  cases d.resolve a.seed.user with
  | some p => rfl
  | none =>
    rw [provisioned, mergeRoles_eq]
    rfl

theorem defaultRoles_perform (d : Directory) (c : DirectoryCall) :
    (d.perform c).defaultRoles = d.defaultRoles := by
  cases c <;> rfl

theorem resolve_perform (d : Directory) (c : DirectoryCall) (user : String) :
    (d.perform c).resolve user =
      if c.user = user then told d.defaultRoles (d.resolve user) c else d.resolve user := by
  cases c with
  | login a =>
    rw [perform, resolve_login, DirectoryCall.user, admitted_eq]
    split
    · next same =>
      subst same
      rfl
    · rfl
  | remember p => exact resolve_remember d p user
  | forget name => exact resolve_forget d name user

theorem resolve_foldl_perform (calls : List DirectoryCall) (d : Directory) (user : String) :
    (calls.foldl perform d).resolve user =
      (calls.filter (·.user = user)).foldl (told d.defaultRoles) (d.resolve user) := by
  induction calls generalizing d with
  | nil => rfl
  | cons c calls ih =>
    rw [List.foldl_cons, ih, resolve_perform, defaultRoles_perform]
    by_cases named : c.user = user <;> simp [named]

theorem foldl_told_rtakeWhile (defaultRoles : List String) (calls : List DirectoryCall) :
    calls.foldl (told defaultRoles) none =
      (calls.rtakeWhile (!·.isForget)).foldl (told defaultRoles) none := by
  induction calls using List.reverseRecOn with
  | nil => rfl
  | append_singleton calls c ih =>
    cases forgets : c.isForget with
    | true =>
      rw [List.rtakeWhile_concat_neg _ _ _ (by simp [forgets]), List.foldl_concat]
      cases c <;> first | rfl | cases forgets
    | false =>
      rw [List.rtakeWhile_concat_pos _ _ _ (by simp [forgets]), List.foldl_concat,
        List.foldl_concat, ih]

theorem resolve_ofHistory (defaultRoles : List String) (calls : List DirectoryCall)
    (user : String) : (ofHistory defaultRoles calls).resolve user =
      (DirectoryCall.recent user calls).foldl (told defaultRoles) none := by
  have empty : resolve { defaultRoles } user = none := Std.ExtTreeMap.getElem?_empty
  rw [ofHistory, resolve_foldl_perform, empty, foldl_told_rtakeWhile]
  rfl

/-- Where the calls on a user start from, and the logins after that. -/
inductive Beginning (defaultRoles : List String) :
    List DirectoryCall → Principal → List Arrival → Prop
  | remembered (before : List DirectoryCall) (b : Principal) (later : List Arrival) :
    Beginning defaultRoles (before ++ .remember b :: later.map .login) b later
  | provisioned (a : Arrival) (later : List Arrival) :
    Beginning defaultRoles (.login a :: later.map .login) (a.principal defaultRoles) later

namespace Beginning

variable {defaultRoles : List String} {calls : List DirectoryCall} {b : Principal}
  {later : List Arrival}

theorem concat (h : Beginning defaultRoles calls b later) (a : Arrival) :
    Beginning defaultRoles (calls ++ [.login a]) b (later ++ [a]) := by
  cases h with
  | remembered before =>
    have after : Beginning defaultRoles _ b _ := remembered before b (later ++ [a])
    simpa using after
  | provisioned first =>
    have after : Beginning defaultRoles _ _ _ := provisioned first (later ++ [a])
    simpa using after

theorem exists_of_ne_nil (named : calls ≠ []) (kept : ∀ c ∈ calls, c.isForget = false) :
    ∃ b later, Beginning defaultRoles calls b later := by
  induction calls using List.reverseRecOn with
  | nil => exact absurd rfl named
  | append_singleton calls c ih =>
    cases c with
    | remember p => exact ⟨p, [], remembered calls p []⟩
    | forget user => cases kept (.forget user) (by simp)
    | login a =>
      by_cases first : calls = []
      · subst first
        exact ⟨_, [], provisioned a []⟩
      · obtain ⟨b, later, h⟩ := ih first fun c hc => kept c (List.mem_append_left _ hc)
        exact ⟨b, later ++ [a], h.concat a⟩

theorem foldl_logins (b : Principal) (later : List Arrival) :
    (later.map DirectoryCall.login).foldl (told defaultRoles) (some b) = some (b.grown later) := by
  induction later using List.reverseRecOn with
  | nil => rw [Principal.grown_nil]; rfl
  | append_singleton later a ih =>
    rw [List.map_append, List.foldl_append, ih, Principal.grown_concat]
    rfl

theorem foldl_told (h : Beginning defaultRoles calls b later) :
    calls.foldl (told defaultRoles) none = some (b.grown later) := by
  cases h with
  | remembered before =>
    rw [List.foldl_append, List.foldl_cons]
    exact foldl_logins b later
  | provisioned a => exact foldl_logins _ later

theorem user_eq {user : String} (h : Beginning defaultRoles calls b later)
    (named : ∀ c ∈ calls, c.user = user) : b.user = user := by
  cases h with
  | remembered before => exact named (.remember b) (by simp)
  | provisioned a => exact named (.login a) (by simp)

end Beginning

/-- Whatever was asked of a directory, it knows a user exactly if a call has named the user since
the user was last forgotten. The user is then known by that name, and as what the later logins made
of the principal that those calls start from. No other call matters. -/
theorem resolve_eq_grown (defaultRoles : List String) (calls : List DirectoryCall)
    (user : String) :
    let d := ofHistory defaultRoles calls
    let recent := DirectoryCall.recent user calls
    (∀ p, d.resolve user = some p ↔
      ∃ b later, Beginning defaultRoles recent b later ∧ p = b.grown later) ∧
    (∀ p, d.resolve user = some p → p.user = user) ∧
    (d.resolve user = none ↔ recent = []) ∧
    ∀ others, DirectoryCall.recent user others = recent →
      (ofHistory defaultRoles others).resolve user = d.resolve user := by
  intro d recent
  have folded : d.resolve user = recent.foldl (told defaultRoles) none :=
    resolve_ofHistory defaultRoles calls user
  have kept : ∀ c ∈ recent, c.isForget = false := fun c hc => by
    simpa using List.mem_rtakeWhile_imp hc
  have grown {b : Principal} {later : List Arrival}
      (h : Beginning defaultRoles recent b later) : d.resolve user = some (b.grown later) :=
    folded.trans h.foldl_told
  have start (named : recent ≠ []) : ∃ b later, Beginning defaultRoles recent b later :=
    Beginning.exists_of_ne_nil named kept
  have absent (unnamed : recent = []) : d.resolve user = none := by
    rw [folded, unnamed]
    rfl
  have known {p : Principal} (h : d.resolve user = some p) :
      ∃ b later, Beginning defaultRoles recent b later ∧ p = b.grown later := by
    by_cases unnamed : recent = []
    · cases (absent unnamed).symm.trans h
    · obtain ⟨b, later, begins⟩ := start unnamed
      exact ⟨b, later, begins, Option.some.inj (h.symm.trans (grown begins))⟩
  refine ⟨fun p => ⟨known, ?_⟩, fun p h => ?_, ⟨fun h => ?_, absent⟩, fun others same => ?_⟩
  · rintro ⟨b, later, begins, rfl⟩
    exact grown begins
  · obtain ⟨b, later, begins, rfl⟩ := known h
    exact begins.user_eq fun c hc => DirectoryCall.user_of_mem_recent hc
  · by_contra named
    obtain ⟨b, later, begins⟩ := start named
    cases h.symm.trans (grown begins)
  · rw [resolve_ofHistory, same, folded]

theorem resolve_eq_grown_after_forget :
    let orders := PermissionSet.ofGrants [("orders", .read)]
    let calls : List DirectoryCall := [
      .remember { Principal.named "bob" .epoch with roles := ["admin"] },
      .login ⟨{ user := "ann", roles := ["admin"] }, .epoch⟩,
      .forget "bob",
      .login ⟨{ user := "bob", roles := ["x", "user", "x"] }, .earliest⟩,
      .forget "ann",
      .login ⟨{ user := "bob", roles := ["y", "x", "z"], permissions := orders }, .epoch⟩,
      .login ⟨{ user := "bob", longName := some "Bob B.", roles := ["z", "w"] }, .latest⟩]
    (ofHistory ["user"] calls).resolve "ann" = none ∧
      (ofHistory ["user"] calls).resolve "bob" = some {
        user := "bob"
        longName := "bob"
        permissions := orders
        roles := ["user", "x", "y", "z", "w"]
        createdAt := .earliest
        lastLogin := some .latest } := by
  intro orders calls
  obtain ⟨-, -, ann, -⟩ := resolve_eq_grown ["user"] calls "ann"
  obtain ⟨bob, -, -, -⟩ := resolve_eq_grown ["user"] calls "bob"
  refine ⟨ann.mpr (by rfl), (bob _).mpr ?_⟩
  exact ⟨_, _, .provisioned ⟨{ user := "bob", roles := ["x", "user", "x"] }, .earliest⟩ [
    ⟨{ user := "bob", roles := ["y", "x", "z"], permissions := orders }, .epoch⟩,
    ⟨{ user := "bob", longName := some "Bob B.", roles := ["z", "w"] }, .latest⟩], by rfl⟩

end Directory

end SessionGateway
