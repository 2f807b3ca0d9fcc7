import SessionGateway.Plugin.Registry

/-! Lists in the order of the ids. A map of modules is listed in that order, each module once, and
so are the modules that a condition picks out of it and what is made of them. -/

namespace SessionGateway

/-- The list has each value that `holds` of an id once, under that id, and the ids ascend. -/
structure ListsById {α : Type} (holds : PluginId → α → Prop) (ps : List (PluginId × α)) : Prop where
  ascending : ps.Pairwise (·.1 < ·.1)
  mem_iff : ∀ p, p ∈ ps ↔ holds p.1 p.2

namespace ListsById

variable {α β : Type} {holds : PluginId → α → Prop} {ps : List (PluginId × α)}

theorem toList (m : Std.ExtTreeMap PluginId α) :
    ListsById (fun id a => m[id]? = some a) m.toList where
  ascending := m.ordered_keys_toList.imp compareOfLessAndEq_eq_lt.mp
  mem_iff _ := Std.ExtTreeMap.mem_toList_iff_getElem?_eq_some

theorem filter (h : ListsById holds ps) (keep : PluginId × α → Bool) :
    ListsById (fun id a => holds id a ∧ keep (id, a) = true) (ps.filter keep) where
  ascending := h.ascending.filter keep
  mem_iff p := by rw [List.mem_filter, h.mem_iff]

theorem filterMap (h : ListsById holds ps) (make : α → Option β) :
    ListsById (fun id b => ∃ a, holds id a ∧ make a = some b)
      (ps.filterMap fun p => (make p.2).map fun b => (p.1, b)) where
  ascending := by
    refine List.Pairwise.filterMap _ (fun p q before p' hp q' hq => ?_) h.ascending
    obtain ⟨b, -, rfl⟩ := Option.map_eq_some_iff.mp hp
    obtain ⟨c, -, rfl⟩ := Option.map_eq_some_iff.mp hq
    exact before
  mem_iff q := by
    rw [List.mem_filterMap]
    constructor
    · rintro ⟨p, listed, paired⟩
      obtain ⟨b, made, rfl⟩ := Option.map_eq_some_iff.mp paired
      exact ⟨p.2, (h.mem_iff p).mp listed, made⟩
    · rintro ⟨a, held, made⟩
      exact ⟨(q.1, a), (h.mem_iff _).mpr held, by rw [made]; rfl⟩

theorem map_toList_congr {m m' : Std.ExtTreeMap PluginId α} {f : α → β}
    (same : ∀ id : PluginId, (m[id]?).map f = (m'[id]?).map f) :
    m.toList.map (fun p => f p.2) = m'.toList.map fun p => f p.2 := by
  have images : m.map (fun _ a => f a) = m'.map fun _ a => f a := by
    apply Std.ExtTreeMap.ext_getElem?
    intro id
    rw [Std.ExtTreeMap.getElem?_map, Std.ExtTreeMap.getElem?_map, same]
  have pairs := congrArg (fun m => m.toList.map (·.2)) images
  simp only [Std.ExtTreeMap.toList_map, List.map_map] at pairs
  exact pairs

end ListsById

end SessionGateway
