import Mathlib.Data.List.Nodup
import Mathlib.Data.List.Pairwise
import Std.Data.ExtTreeMap

/-! Maps that are written pair by pair. A map holds for each key the value that was written last,
and pairs that agree where they share a key may be written in any order. -/

namespace SessionGateway

variable {α : Type}

def putAll (m : Std.ExtTreeMap String α) (ps : List (String × α)) : Std.ExtTreeMap String α :=
  ps.foldl (fun m p => m.insert p.1 p.2) m

theorem putAll_append (m : Std.ExtTreeMap String α) (ps qs : List (String × α)) :
    putAll m (ps ++ qs) = putAll (putAll m ps) qs :=
  List.foldl_append

theorem putAll_eq_of_perm {ps qs : List (String × α)} (same : ps.Perm qs)
    (agree : ∀ p ∈ ps, ∀ q ∈ ps, p.1 = q.1 → p = q) (m : Std.ExtTreeMap String α) :
    putAll m ps = putAll m qs := by
  refine same.foldl_eq' (fun p hp q hq m => ?_) m
  apply Std.ExtTreeMap.ext_getElem?
  intro key
  simp only [Std.ExtTreeMap.getElem?_insert, Std.LawfulEqCmp.compare_eq_iff_eq]
  by_cases hpk : p.1 = key
  · by_cases hqk : q.1 = key
    · rw [agree p hp q hq (hpk.trans hqk.symm)]
    · simp [hpk, hqk]
  · simp [hpk]

/-- The pairs whose key no later pair has. -/
def latest (ps : List (String × α)) : List (String × α) :=
  ps.pwFilter fun p q => p.1 ≠ q.1

theorem latest_cons (p : String × α) (ps : List (String × α)) :
    latest (p :: ps) = if ∃ q ∈ latest ps, q.1 = p.1 then latest ps else p :: latest ps := by
  unfold latest
  split
  · next later =>
    obtain ⟨q, hq, same⟩ := later
    exact List.pwFilter_cons_of_neg fun apart => apart q hq same.symm
  · next last =>
    exact List.pwFilter_cons_of_pos fun q hq same => last ⟨q, hq, same.symm⟩

theorem latest_eq_self {ps : List (String × α)} : latest ps = ps ↔ (ps.map (·.1)).Nodup := by
  rw [latest, List.pwFilter_eq_self, List.Nodup, List.pairwise_map]

theorem getElem?_putAll (m : Std.ExtTreeMap String α) (ps : List (String × α)) (key : String)
    (value : α) : (putAll m ps)[key]? = some value ↔
      (key, value) ∈ latest ps ∨ (∀ q ∈ latest ps, q.1 ≠ key) ∧ m[key]? = some value := by
  induction ps generalizing m with
  | nil => simp [putAll, latest]
  | cons p ps ih =>
    obtain ⟨k, v⟩ := p
    change (putAll (m.insert k v) ps)[key]? = some value ↔ _
    rw [ih, latest_cons]
    simp only [Std.ExtTreeMap.getElem?_insert, Std.LawfulEqCmp.compare_eq_iff_eq]
    by_cases later : ∃ q ∈ latest ps, q.1 = k
    · rw [if_pos later]
      by_cases same : k = key
      · obtain ⟨q, hq, rfl⟩ := later
        have taken : ¬ ∀ q ∈ latest ps, q.1 ≠ key := fun free => free q hq same
        simp only [taken, false_and]
      · rw [if_neg same]
    · rw [if_neg later]
      by_cases same : k = key
      · subst same
        have free : ∀ q ∈ latest ps, q.1 ≠ k := fun q hq same => later ⟨q, hq, same⟩
        simp only [eq_true free]
        simp [or_comm, eq_comm]
      · simp [same, Ne.symm same]

theorem mem_of_getElem?_putAll {ps : List (String × α)} {key : String} {value : α}
    (h : (putAll ∅ ps)[key]? = some value) : (key, value) ∈ ps := by
  rcases (getElem?_putAll ∅ ps key value).mp h with written | ⟨-, held⟩
  · exact (List.pwFilter_sublist ps).mem written
  · simp at held

theorem exists_getElem?_putAll (m : Std.ExtTreeMap String α) {ps : List (String × α)}
    {p : String × α} (h : p ∈ ps) :
    ∃ value, (p.1, value) ∈ ps ∧ (putAll m ps)[p.1]? = some value := by
  induction ps generalizing m p with
  | nil => cases h
  | cons q ps ih =>
    by_cases later : ∃ p' ∈ ps, p'.1 = p.1
    · obtain ⟨p', hp', same⟩ := later
      obtain ⟨value, written, held⟩ := ih (m.insert q.1 q.2) hp'
      exact ⟨value, List.mem_cons_of_mem _ (same ▸ written), same ▸ held⟩
    · rcases List.mem_cons.mp h with rfl | earlier
      · refine ⟨p.2, List.mem_cons_self, (getElem?_putAll (m.insert p.1 p.2) ps p.1 p.2).mpr ?_⟩
        have free : ∀ q ∈ latest ps, q.1 ≠ p.1 :=
          fun q hq same => later ⟨q, (List.pwFilter_sublist ps).mem hq, same⟩
        exact .inr ⟨free, Std.ExtTreeMap.getElem?_insert_self⟩
      · exact absurd ⟨p, earlier, rfl⟩ later

theorem toList_putAll (ps : List (String × α)) : (putAll ∅ ps).toList.Perm (latest ps) := by
  have keys : (putAll ∅ ps).toList.Nodup :=
    Std.ExtTreeMap.distinct_keys_toList.imp fun apart same => apart (by simp [same])
  have pairs : (latest ps).Nodup :=
    (List.pairwise_pwFilter ps).imp fun apart same => apart (by rw [same])
  refine (List.perm_ext_iff_of_nodup keys pairs).mpr fun ⟨key, value⟩ => ?_
  rw [Std.ExtTreeMap.mem_toList_iff_getElem?_eq_some, getElem?_putAll]
  simp

theorem putAll_toList (m : Std.ExtTreeMap String α) : putAll ∅ m.toList = m := by
  have keys : (m.toList.map (·.1)).Nodup := by
    rw [List.Nodup, List.pairwise_map]
    exact Std.ExtTreeMap.distinct_keys_toList.imp fun apart same => apart (by simp [same])
  refine Std.ExtTreeMap.ext_getElem? fun key => Option.ext fun value => ?_
  rw [getElem?_putAll, latest_eq_self.mpr keys, Std.ExtTreeMap.mem_toList_iff_getElem?_eq_some]
  simp

end SessionGateway
