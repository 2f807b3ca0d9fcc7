import SessionGateway.Proofs.Chain.Validation
import SessionGateway.Proofs.Plugin.Registration

/-! Which validators are asked, and in which order. A validator that is registered again takes the
place of the earlier one, so each id has one validator, the last, and stands where it was registered
first. They are asked until one refuses or crashes. -/

namespace SessionGateway

namespace Access

variable (a : Access)

def question (p : PluginId × Validator) : PluginCall :=
  .validate p.2.source a

theorem snd_consult_append {before : List (PluginId × Validator)}
    (admitted : ∀ p ∈ before, p.2.judge a = .ok true) (after : List (PluginId × Validator)) :
    (a.consult (before ++ after)).2 = before.map a.question ++ (a.consult after).2 := by
  induction before with
  | nil => rfl
  | cons p before ih =>
    have first : p.2.admits a = true := Validator.admits_iff.mpr (admitted p List.mem_cons_self)
    have rest := ih fun q hq => admitted q (List.mem_cons_of_mem _ hq)
    simp only [List.cons_append, consult, first, if_true, rest, List.map_cons]
    rfl

theorem snd_consult_of_refused {p : PluginId × Validator} (refused : p.2.judge a ≠ .ok true)
    (after : List (PluginId × Validator)) : (a.consult (p :: after)).2 = [a.question p] := by
  rw [consult, if_neg fun admitted => refused (Validator.admits_iff.mp admitted)]
  rfl

/-- Whatever is registered and granted: the chain has the last validator of each id, in the order of
the first registrations. Its validators are asked up to the first that does not admit, and access is
given if they all admit and one of the grants is of the role or of admin, on the resource or on
every resource. -/
theorem decided_by_latest (cs : List Registration) (gs : List (String × Role))
    (principal : Principal) (role : Role) (resource : String) (request : Request) :
    let chain := (Registry.ofRegistrations cs).validators
    let a : Access :=
      { principal := { principal with permissions := .ofGrants gs }, role, resource, request }
    let decision := a.decide (Registry.ofRegistrations cs)
    Validator.Latest (cs.flatMap Registration.validators) chain ∧
      ((∀ p ∈ chain, p.2.judge a = .ok true) → decision.2 = chain.map a.question) ∧
      (∀ before p after, chain = before ++ p :: after → (∀ q ∈ before, q.2.judge a = .ok true) →
        p.2.judge a ≠ .ok true → decision.2 = (before ++ [p]).map a.question) ∧
      (decision.1 = true ↔ (∀ p ∈ chain, p.2.judge a = .ok true) ∧
        ∃ g ∈ gs, (g.1 = resource ∨ g.1 = "*") ∧ (g.2 = role ∨ g.2 = .admin)) := by
  intro chain a decision
  have calls : decision.2 = (a.consult chain).2 := rfl
  refine ⟨.ofRegistrations cs, fun admitted => ?_, fun before p after split admitted refused => ?_,
    ?_⟩
  · rw [calls, ← List.append_nil chain, snd_consult_append a admitted]
    simp [consult]
  · rw [calls, split, snd_consult_append a admitted, snd_consult_of_refused a refused,
      List.map_append]
    rfl
  · have granted (g : String × Role) : g ∈ a.principal.permissions.pairs ↔ g ∈ gs :=
      PermissionSet.mem_pairs_ofGrants gs g
    refine (a.decide_iff _).trans ⟨fun h => ⟨h.validators, ?_⟩, fun h => ⟨h.1, ?_⟩⟩
    · obtain ⟨g, grant, allows⟩ := h.grant
      exact ⟨g, (granted g).mp grant, allows⟩
    · obtain ⟨g, grant, allows⟩ := h.2
      exact ⟨g, (granted g).mpr grant, allows⟩

theorem decided_by_latest_in_place :
    let old : Validator := ⟨"old", fun _ => .error ⟨none⟩⟩
    let new : Validator := ⟨"new", fun _ => .ok true⟩
    let strict : Validator :=
      ⟨"strict", fun a => if a.role = .write then .error ⟨none⟩ else .ok true⟩
    let cs := [("a", old), ("b", strict), ("a", new), ("c", new)].map
      fun p => Registration.entry p.1 (.validator p.2)
    let gs : List (String × Role) := [("x", .read), ("*", .admin)]
    let a (role : Role) : Access :=
      { principal := { Principal.named "ann" .epoch with permissions := .ofGrants gs },
        role, resource := "y", request := {} }
    let decision (role : Role) := (a role).decide (Registry.ofRegistrations cs)
    (decision .read).1 = true ∧ (decision .write).1 = false ∧
      (decision .read).2 = [("a", new), ("b", strict), ("c", new)].map (a .read).question ∧
      (decision .write).2 = [("a", new), ("b", strict)].map (a .write).question := by
  intro old new strict cs gs a decision
  have chain : (Registry.ofRegistrations cs).validators = [("a", new), ("b", strict), ("c", new)] :=
    rfl
  have admitted : ∀ p ∈ [("a", new), ("b", strict), ("c", new)],
      p.2.judge (a .read) = .ok true := by
    simp [new, strict, a]
  have refused : strict.judge (a .write) ≠ .ok true := fun h => by cases h
  obtain ⟨-, asked, -, allowed⟩ :=
    decided_by_latest cs gs (Principal.named "ann" .epoch) .read "y" {}
  obtain ⟨-, -, stopped, granted⟩ :=
    decided_by_latest cs gs (Principal.named "ann" .epoch) .write "y" {}
  refine ⟨allowed.mpr ⟨admitted, ("*", .admin), by decide, .inr rfl, .inr rfl⟩, ?_, asked admitted,
    stopped [("a", new)] ("b", strict) [("c", new)] chain (fun q hq => ?_) refused⟩
  · exact Bool.eq_false_iff.mpr fun given =>
      refused ((granted.mp given).1 ("b", strict) (chain ▸ by simp))
  · rw [List.mem_singleton.mp hq]

end Access

end SessionGateway
