import SessionGateway.Identity.Permission

/-! A permission set as a set of grants. A role is allowed on a resource if one of the grants is of
that role or of admin, and is on that resource or on every resource. -/

namespace SessionGateway.PermissionSet

variable (p : PermissionSet)

theorem mem_pairs (resource : String) (role : Role) :
    (resource, role) ∈ p.pairs ↔ (p.rolesOn resource).contains role = true := by
  unfold pairs rolesOn
  constructor
  · intro grant
    obtain ⟨⟨key, roles⟩, entry, found⟩ := List.mem_flatMap.mp grant
    obtain ⟨_, member, same⟩ := List.mem_map.mp found
    obtain ⟨rfl, rfl⟩ := Prod.mk.inj same
    rw [Std.ExtTreeMap.mem_toList_iff_getElem?_eq_some.mp entry]
    exact (RoleSet.mem_toList _ _).mp member
  · intro member
    cases found : p.grants[resource]? with
    | none => cases role <;> simp [found, RoleSet.contains] at member
    | some roles =>
      rw [found] at member
      have entry := Std.ExtTreeMap.mem_toList_iff_getElem?_eq_some.mpr found
      have listed := (roles.mem_toList role).mpr member
      exact List.mem_flatMap.mpr ⟨_, entry, List.mem_map_of_mem listed⟩

theorem mem_pairs_grant (resource : String) (role : Role) (g : String × Role) :
    g ∈ (p.grant resource role).pairs ↔ g = (resource, role) ∨ g ∈ p.pairs := by
  obtain ⟨other, q⟩ := g
  rw [mem_pairs, mem_pairs, rolesOn_grant]
  by_cases same : resource = other
  · subst same
    simp [@eq_comm Role role]
  · simp [same, Ne.symm same]

theorem mem_pairs_ofGrants (gs : List (String × Role)) (g : String × Role) :
    g ∈ (ofGrants gs).pairs ↔ g ∈ gs := by
  have run (gs : List (String × Role)) (p : PermissionSet) :
      g ∈ (gs.foldl (fun p g => p.grant g.1 g.2) p).pairs ↔ g ∈ gs ∨ g ∈ p.pairs := by
    induction gs generalizing p with
    | nil => simp
    | cons first gs ih =>
      rw [List.foldl_cons, ih, mem_pairs_grant, List.mem_cons, or_left_comm, or_assoc]
  have none : g ∉ empty.pairs := fun grant => by cases grant
  exact (run gs empty).trans (or_iff_left none)

theorem allows_iff (role : Role) (resource : String) :
    p.allows role resource = true ↔
      ∃ g ∈ p.pairs, (g.1 = resource ∨ g.1 = anyResource) ∧ (g.2 = role ∨ g.2 = .admin) := by
  have on (name : String) : (p.rolesOn name).allows role = true ↔
      ∃ g ∈ p.pairs, g.1 = name ∧ (g.2 = role ∨ g.2 = .admin) := by
    rw [RoleSet.allows, Bool.or_eq_true, ← mem_pairs, ← mem_pairs]
    constructor
    · rintro (grant | grant)
      · exact ⟨_, grant, rfl, .inl rfl⟩
      · exact ⟨_, grant, rfl, .inr rfl⟩
    · rintro ⟨⟨_, _⟩, grant, rfl, rfl | rfl⟩
      · exact .inl grant
      · exact .inr grant
  rw [allows, Bool.or_eq_true, on, on]
  constructor
  · rintro (⟨g, grant, here, role⟩ | ⟨g, grant, anywhere, role⟩)
    · exact ⟨g, grant, .inl here, role⟩
    · exact ⟨g, grant, .inr anywhere, role⟩
  · rintro ⟨g, grant, here | anywhere, role⟩
    · exact .inl ⟨g, grant, here, role⟩
    · exact .inr ⟨g, grant, anywhere, role⟩

end SessionGateway.PermissionSet
