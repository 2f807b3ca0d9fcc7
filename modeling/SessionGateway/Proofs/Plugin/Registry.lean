import SessionGateway.Plugin.Registry
import SessionGateway.Proofs.Map

/-! What a registration writes into the maps and the lists of a registry. -/

namespace SessionGateway

section replaceOrAppend

variable {α : Type} {key : String} {value : α} {ps : List (String × α)}

theorem replaceOrAppend_of_not_mem (free : key ∉ ps.map (·.1)) :
    replaceOrAppend key value ps = ps ++ [(key, value)] := by
  induction ps with
  | nil => rfl
  | cons p ps ih =>
    obtain ⟨k, v⟩ := p
    simp only [List.map_cons, List.mem_cons, not_or] at free
    rw [replaceOrAppend, if_neg (Ne.symm free.1), ih free.2, List.cons_append]

theorem map_fst_replaceOrAppend :
    (replaceOrAppend key value ps).map (·.1) =
      if key ∈ ps.map (·.1) then ps.map (·.1) else ps.map (·.1) ++ [key] := by
  induction ps with
  | nil => rfl
  | cons p ps ih =>
    obtain ⟨k, v⟩ := p
    rw [replaceOrAppend]
    by_cases same : k = key
    · simp [same]
    · simp only [if_neg same, List.map_cons, ih, List.mem_cons, Ne.symm same, false_or]
      split <;> rfl

theorem eq_or_of_mem_replaceOrAppend (keys : (ps.map (·.1)).Nodup) {p : String × α}
    (h : p ∈ replaceOrAppend key value ps) : p = (key, value) ∨ p ∈ ps ∧ p.1 ≠ key := by
  induction ps with
  | nil => exact .inl (List.mem_singleton.mp h)
  | cons q ps ih =>
    obtain ⟨k, v⟩ := q
    obtain ⟨free, keys⟩ := List.nodup_cons.mp keys
    rw [replaceOrAppend] at h
    split at h
    · next same =>
      subst same
      rcases List.mem_cons.mp h with new | kept
      · exact .inl new
      · exact .inr ⟨List.mem_cons_of_mem _ kept,
          fun taken => free (List.mem_map.mpr ⟨p, kept, taken⟩)⟩
    · next other =>
      rcases List.mem_cons.mp h with rfl | h
      · exact .inr ⟨List.mem_cons_self, other⟩
      · exact (ih keys h).imp_right fun kept => ⟨List.mem_cons_of_mem _ kept.1, kept.2⟩

end replaceOrAppend

namespace Extension

/-- The segments that an extension claims; a claim that is for no segment does not count. -/
def segments (e : Extension) : List String :=
  e.claimed.filterMap claimedSegment?

def holdings (e : Extension) (id : PluginId) : List (String × PluginId × Extension) :=
  e.segments.map fun segment => (segment, id, e)

end Extension

namespace Registry

variable (r : Registry) (id : PluginId)

theorem addEntry_extend (e : Extension) :
    r.addEntry id (.extend e) = { r with extensions := putAll r.extensions (e.holdings id) } := by
  have claims (claimed : List String) (r : Registry) :
      claimed.foldl (fun r claim => r.addExtension claim id e) r =
        let segments := claimed.filterMap claimedSegment?
        { r with extensions := putAll r.extensions (segments.map fun s => (s, id, e)) } := by
    induction claimed generalizing r with
    | nil => rfl
    | cons claim claimed ih =>
      rw [List.foldl_cons, ih, addExtension]
      cases found : claimedSegment? claim <;> simp [found, putAll]
  exact claims e.claimed r

end Registry

end SessionGateway
