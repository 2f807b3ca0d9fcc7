import SessionGateway.Chain.Validation
import SessionGateway.Proofs.Identity.Permission

/-! When access is granted. The validators are asked in turn and the first refusal ends the
questions, but the verdict depends only on what each of them would answer. -/

namespace SessionGateway

theorem Validator.admits_iff {v : Validator} {a : Access} :
    v.admits a = true ↔ v.judge a = .ok true := by
  unfold admits
  cases v.judge a <;> simp

namespace PluginCall

def isHandling : PluginCall → Bool
  | handle _ _ _ _ => true
  | _ => false

end PluginCall

namespace Access

variable (a : Access)

theorem fst_consult (vs : List (PluginId × Validator)) :
    (a.consult vs).1 = vs.all fun p => p.2.admits a := by
  induction vs with
  | nil => rfl
  | cons p vs ih =>
    rw [consult, List.all_cons]
    cases p.2.admits a with
    | false => rfl
    | true => exact ih

theorem handlings_consult (vs : List (PluginId × Validator)) :
    (a.consult vs).2.filter PluginCall.isHandling = [] := by
  induction vs with
  | nil => rfl
  | cons p vs ih =>
    rw [consult]
    cases p.2.admits a with
    | false => rfl
    | true => exact ih

/-- No validator refuses or crashes, and a grant allows the role. -/
structure Granted (r : Registry) : Prop where
  validators : ∀ p ∈ r.validators, p.2.judge a = .ok true
  grant : ∃ g ∈ a.principal.permissions.pairs,
    (g.1 = a.resource ∨ g.1 = anyResource) ∧ (g.2 = a.role ∨ g.2 = .admin)

theorem decide_iff (r : Registry) : (a.decide r).1 = true ↔ a.Granted r := by
  change ((a.consult r.validators).1 && a.permitted) = true ↔ _
  rw [Bool.and_eq_true, fst_consult, List.all_eq_true, permitted, Principal.canAccess,
    PermissionSet.allows_iff]
  simp only [Validator.admits_iff]
  exact ⟨fun ⟨validators, grant⟩ => ⟨validators, grant⟩, fun h => ⟨h.validators, h.grant⟩⟩

theorem fst_decide_eq_of_perm {r s : Registry} (same : r.validators.Perm s.validators) :
    (a.decide r).1 = (a.decide s).1 := by
  change ((a.consult r.validators).1 && _) = ((a.consult s.validators).1 && _)
  rw [fst_consult, fst_consult, same.all_eq]

end Access

end SessionGateway
