import SessionGateway.Proofs.Plugin.Account

/-! What a module is reported to have registered, against what is in use under its id when its
capabilities have been gone through. The two differ for extensions only: one that claims nothing, or
only texts that no path has between its slashes, is reported but is reached by no request. -/

namespace SessionGateway

/-- An entry point for the capability is in use under the id. -/
def Registry.Serving (r : Registry) (id : PluginId) (c : Capability) : Prop :=
  ∃ e, e.capability = c ∧ r.Holds id e

namespace Scan

/-- The module has an extension that claims a segment. -/
def ClaimsSegment (handle : ModuleHandle) : Prop :=
  ∃ e, handle.resolve .extend = .ok (.extend e) ∧ e.segments ≠ []

variable {opener : ModuleOpener} {settings : PluginSettings}

theorem serving_iff {before : List Registration} {id : PluginId}
    (fresh : ∀ e, .entry id e ∉ before) (es : List EntryPoint) (c : Capability) :
    (Registry.ofRegistrations (before ++ es.map (.entry id))).Serving id c ↔
      ∃ e ∈ es, e.capability = c ∧ e.Usable := by
  constructor
  · rintro ⟨e, rfl, held⟩
    obtain ⟨registered, usable⟩ := Registry.mem_of_holds held
    rcases List.mem_append.mp registered with earlier | own
    · exact absurd earlier (fresh e)
    · obtain ⟨e', he, same⟩ := List.mem_map.mp own
      obtain rfl := (Registration.entry.inj same).2
      exact ⟨e', he, rfl, usable⟩
  · rintro ⟨e, he, rfl, usable⟩
    exact Registry.exists_holds before he usable

theorem exists_usable_iff {handle : ModuleHandle} {m : Module} {c : Capability} :
    (∃ e ∈ held handle m.capabilities.toList, e.capability = c ∧ e.Usable) ↔
      (provided handle m).contains c = true ∧ (c = .extend → ClaimsSegment handle) := by
  rw [contains_provided]
  constructor
  · rintro ⟨e, he, rfl, usable⟩
    obtain ⟨declared, resolves⟩ := mem_held.mp he
    refine ⟨⟨(CapabilitySet.mem_toList _ _).mp declared, e, resolves, rfl⟩, fun extend => ?_⟩
    cases e with
    | extend e => exact ⟨e, resolves, usable⟩
    | _ => cases extend
  · rintro ⟨⟨declared, e, resolves, rfl⟩, claims⟩
    refine ⟨e, mem_held.mpr ⟨(CapabilitySet.mem_toList _ _).mpr declared, resolves⟩, rfl, ?_⟩
    cases e with
    | extend e =>
      obtain ⟨e', resolves', segments⟩ := claims rfl
      cases resolves.symm.trans resolves'
      exact segments
    | _ => trivial

theorem fresh_of_distinct {before after : List String} {path : String} {handle : ModuleHandle}
    {m : Module} (admitted : Admitted opener settings path handle m)
    (distinct : (((before ++ path :: after).foldl (visit opener settings.allows) {}).descriptors.map
      (·.id)).Nodup) (e : EntryPoint) :
    .entry ((ModulePath.stem? path).getD m.name) e ∉
      before.flatMap fun p => (finding opener settings.allows p).registrations := by
  intro registered
  obtain ⟨earlier, hp, he⟩ := List.mem_flatMap.mp registered
  obtain ⟨d, hd, same, -⟩ := admitted_of_mem_registrations he
  rw [foldl_visit_empty] at distinct
  simp only [List.flatMap_append, List.flatMap_cons, finding_of_admitted admitted,
    List.map_append] at distinct
  have apart := (List.nodup_append.mp distinct).2.2
  exact apart d.id (List.mem_map_of_mem (List.mem_flatMap.mpr ⟨earlier, hp, hd⟩)) _
    (List.mem_append_left _ (List.mem_singleton_self _)) same

variable (opener settings)

/-- A module is taken in, and no other one of the scan has its id. Right after its capabilities have
been gone through, what is in use under the id is what will be reported as registered, except for an
extension that claims no segment: it is reported, and nobody reaches it. -/
theorem reported_serving_iff (directory : Option String)
    (distinct : ((run opener settings directory).descriptors.map (·.id)).Nodup)
    {before after : List String} {path : String}
    (position : candidates opener directory = before ++ path :: after)
    {handle : ModuleHandle} {m : Module} (admitted : Admitted opener settings path handle m) :
    let id := (ModulePath.stem? path).getD m.name
    let classified := classify path id handle m.capabilities.toList
      (before.foldl (visit opener settings.allows) {}, {})
    let now := classified.1.registry
    let registered := classified.2
    { id, path, contract := m, registered } ∈ (run opener settings directory).descriptors ∧
      (∀ c, registered.contains c = true ↔
        m.capabilities.contains c = true ∧ ∃ e, handle.resolve c = .ok e ∧ e.capability = c) ∧
      (∀ c, now.Serving id c ↔
        registered.contains c = true ∧ (c = .extend → ClaimsSegment handle)) ∧
      ((∀ c, registered.contains c = true ↔ now.Serving id c) ↔
        (registered.contains .extend = true → ClaimsSegment handle)) := by
  intro id classified now registered
  have set : registered = provided handle m := by
    simp only [registered, classified, classify_eq]
    rfl
  have registry : now = .ofRegistrations
      ((before.flatMap fun path => (finding opener settings.allows path).registrations) ++
        (held handle m.capabilities.toList).map (.entry id)) := by
    simp only [now, classified, classify_eq, foldl_visit_empty, Registry.ofRegistrations,
      List.foldl_append]
  have scan : run opener settings directory = _ :=
    (run_eq opener settings directory).trans (congrArg _ position)
  rw [scan] at distinct
  have serving (c : Capability) : now.Serving id c ↔
      registered.contains c = true ∧ (c = .extend → ClaimsSegment handle) := by
    rw [registry, set, serving_iff (fresh_of_distinct admitted distinct), exists_usable_iff]
  refine ⟨?_, fun c => set ▸ contains_provided, serving, fun same claimed => ?_,
    fun claims c => ⟨fun reported => ?_, fun inUse => ((serving c).mp inUse).1⟩⟩
  · have described : { id, path, contract := m, registered } ∈
        (finding opener settings.allows path).descriptors := by
      rw [finding_of_admitted admitted, set]
      exact List.mem_singleton_self _
    rw [scan, foldl_visit_empty]
    exact List.mem_flatMap.mpr ⟨path, List.mem_append_right _ List.mem_cons_self, described⟩
  · exact ((serving .extend).mp ((same .extend).mp claimed)).2 rfl
  · exact (serving c).mpr ⟨reported, fun extend => claims (extend ▸ reported)⟩

theorem reported_not_serving :
    let page : Extension := ⟨"x", ["", "a/b"], fun _ _ _ => .error (.notImplemented "x")⟩
    let m : StaticModule := ⟨⟨"x", "x", "1", { extend := true }, .ok ()⟩, [.extend page]⟩
    let opener : ModuleOpener := ⟨fun _ => .ok ["x.so"], fun _ => .ok m.handle⟩
    let classified := classify "x.so" "x" m.handle m.contract.capabilities.toList ({}, {})
    (run opener {} none).descriptors.map (·.registered) = [{ extend := true }] ∧
      classified.2.contains .extend = true ∧ ¬ classified.1.registry.Serving "x" .extend := by
  intro page m opener classified
  have distinct : ((run opener {} none).descriptors.map (·.id)).Nodup := by decide +kernel
  have admitted : Admitted opener {} "x.so" m.handle m.contract := ⟨rfl, rfl, fun _ h => by cases h⟩
  have stem : (ModulePath.stem? "x.so").getD m.contract.name = "x" := by decide +kernel
  have claimless : ¬ ClaimsSegment m.handle := by
    rintro ⟨e, resolves, segments⟩
    cases resolves
    have none : page.segments = [] := by decide +kernel
    exact segments none
  have position : candidates opener none = [] ++ "x.so" :: [] := rfl
  obtain ⟨-, found, serving, -⟩ := reported_serving_iff opener {} none distinct position admitted
  rw [stem] at found serving
  exact ⟨by decide +kernel, (found .extend).mpr ⟨rfl, _, rfl, rfl⟩,
    fun inUse => claimless (((serving .extend).mp inUse).2 rfl)⟩

end Scan

end SessionGateway
