import SessionGateway.Proofs.Plugin.Registration

/-! Which entry points are in use. A registry holds nothing that was not registered, and it has
something for each capability that a module has just registered, unless that is an extension without
a claim that is for a segment. -/

namespace SessionGateway

namespace EntryPoint

@[simp] theorem auditor?_eq_some {e : EntryPoint} {a : Auditor} :
    e.auditor? = some a ↔ e = audit a := by
  cases e <;> simp [auditor?]

@[simp] theorem validator?_eq_some {e : EntryPoint} {v : Validator} :
    e.validator? = some v ↔ e = validator v := by
  cases e <;> simp [validator?]

@[simp] theorem authenticator?_eq_some {e : EntryPoint} {a : Authenticator} :
    e.authenticator? = some a ↔ e = auth a := by
  cases e <;> simp [authenticator?]

@[simp] theorem listener?_eq_some {e : EntryPoint} {l : DataListener} :
    e.listener? = some l ↔ e = dataEvent l := by
  cases e <;> simp [listener?]

/-- An extension is reached through the segments that it claims. -/
def Usable : EntryPoint → Prop
  | extend e => e.segments ≠ []
  | _ => True

end EntryPoint

namespace Registration

section entries

variable {α : Type} {value? : EntryPoint → Option α} {entryOf : α → EntryPoint}
  {cs : List Registration} {id : PluginId} {value : α}

theorem mem_flatMap_entries (only : ∀ {e value}, value? e = some value ↔ e = entryOf value) :
    (id, value) ∈ cs.flatMap (entries value?) ↔ .entry id (entryOf value) ∈ cs := by
  rw [List.mem_flatMap]
  constructor
  · rintro ⟨c, hc, written⟩
    cases c with
    | contract _ _ => cases written
    | entry id' e =>
      obtain ⟨found, has, same⟩ := List.mem_map.mp written
      obtain ⟨rfl, rfl⟩ := Prod.mk.inj same
      exact only.mp (Option.mem_toList.mp has) ▸ hc
  · intro he
    exact ⟨_, he, List.mem_map_of_mem (Option.mem_toList.mpr (only.mpr rfl))⟩

theorem exists_getElem?_entries (only : ∀ {e value}, value? e = some value ↔ e = entryOf value)
    (h : .entry id (entryOf value) ∈ cs) :
    ∃ value', (putAll ∅ (cs.flatMap (entries value?)))[id]? = some value' := by
  obtain ⟨value', -, held⟩ := exists_getElem?_putAll ∅ ((mem_flatMap_entries only).mpr h)
  exact ⟨value', held⟩

end entries

theorem mem_flatMap_extensions {cs : List Registration} {segment : String} {id : PluginId}
    {e : Extension} :
    (segment, id, e) ∈ cs.flatMap extensions ↔
      .entry id (.extend e) ∈ cs ∧ segment ∈ e.segments := by
  rw [List.mem_flatMap]
  constructor
  · rintro ⟨c, hc, written⟩
    cases c with
    | contract _ _ => cases written
    | entry id' entry =>
      cases entry with
      | extend e' =>
        obtain ⟨claimed, has, same⟩ := List.mem_map.mp written
        cases same
        exact ⟨hc, has⟩
      | _ => cases written
  · rintro ⟨he, has⟩
    exact ⟨_, he, List.mem_map_of_mem has⟩

end Registration

namespace Registry

open Registration

/-- The entry point is in use under the id of its module. -/
def Holds (r : Registry) (id : PluginId) : EntryPoint → Prop
  | .audit a => r.auditors[id]? = some a
  | .validator v => (id, v) ∈ r.validators
  | .extend e => ∃ segment : String, r.extensions[segment]? = some (id, e)
  | .auth a => r.authenticators[id]? = some a
  | .dataEvent l => r.listeners[id]? = some l

theorem mem_of_holds {cs : List Registration} {id : PluginId} {e : EntryPoint}
    (h : (ofRegistrations cs).Holds id e) : .entry id e ∈ cs ∧ e.Usable := by
  rw [ofRegistrations_eq] at h
  cases e with
  | audit a =>
    exact ⟨(mem_flatMap_entries EntryPoint.auditor?_eq_some).mp (mem_of_getElem?_putAll h), trivial⟩
  | validator v =>
    have written := (Validator.Latest.ofRegistrations cs).last (id, v) (ofRegistrations_eq cs ▸ h)
    exact ⟨(mem_flatMap_entries EntryPoint.validator?_eq_some).mp
      (List.mem_reverse.mp (List.mem_of_find?_eq_some written)), trivial⟩
  | extend e =>
    obtain ⟨segment, held⟩ := h
    obtain ⟨he, has⟩ := mem_flatMap_extensions.mp (mem_of_getElem?_putAll held)
    exact ⟨he, List.ne_nil_of_mem has⟩
  | auth a =>
    exact ⟨(mem_flatMap_entries EntryPoint.authenticator?_eq_some).mp (mem_of_getElem?_putAll h),
      trivial⟩
  | dataEvent l =>
    exact ⟨(mem_flatMap_entries EntryPoint.listener?_eq_some).mp (mem_of_getElem?_putAll h),
      trivial⟩

theorem exists_holds (before : List Registration) {id : PluginId} {es : List EntryPoint}
    {e : EntryPoint} (h : e ∈ es) (usable : e.Usable) :
    ∃ e', e'.capability = e.capability ∧
      (ofRegistrations (before ++ es.map (.entry id))).Holds id e' := by
  -- Another module may take over the segments of an extension, so nothing may be registered after
  -- the entry points of the module itself.
  have own : Registration.entry id e ∈ es.map (.entry id) := List.mem_map_of_mem h
  have registered : Registration.entry id e ∈ before ++ es.map (.entry id) :=
    List.mem_append_right _ own
  rw [ofRegistrations_eq]
  cases e with
  | audit a =>
    obtain ⟨a', held⟩ := exists_getElem?_entries EntryPoint.auditor?_eq_some registered
    exact ⟨.audit a', rfl, held⟩
  | validator v =>
    have written := (mem_flatMap_entries EntryPoint.validator?_eq_some).mpr registered
    obtain ⟨v', held⟩ := (Validator.Latest.ofRegistrations _).exists_mem written
    exact ⟨.validator v', rfl, ofRegistrations_eq _ ▸ held⟩
  | extend e =>
    obtain ⟨segment, has⟩ := List.exists_mem_of_ne_nil _ usable
    obtain ⟨⟨id', e'⟩, written, held⟩ := exists_getElem?_putAll
      (putAll ∅ (before.flatMap Registration.extensions)) (mem_flatMap_extensions.mpr ⟨own, has⟩)
    obtain ⟨_, -, same⟩ := List.mem_map.mp (mem_flatMap_extensions.mp written).1
    cases same
    rw [← putAll_append, ← List.flatMap_append] at held
    exact ⟨.extend e', rfl, segment, held⟩
  | auth a =>
    obtain ⟨a', held⟩ := exists_getElem?_entries EntryPoint.authenticator?_eq_some registered
    exact ⟨.auth a', rfl, held⟩
  | dataEvent l =>
    obtain ⟨l', held⟩ := exists_getElem?_entries EntryPoint.listener?_eq_some registered
    exact ⟨.dataEvent l', rfl, held⟩

end Registry

end SessionGateway
