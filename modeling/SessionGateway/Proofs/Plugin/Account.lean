import SessionGateway.Proofs.Plugin.Holding
import SessionGateway.Proofs.Plugin.Scan

/-! What a scan reports, candidate by candidate, and where the entries of its registry come from. A
candidate is taken in if it opens and gives a contract with an allowed name; each capability that it
declares is then either registered or skipped. -/

namespace SessionGateway

namespace CapabilitySet

theorem contains_ofList (cs : List Capability) (c : Capability) :
    (ofList cs).contains c = true ↔ c ∈ cs := by
  have run (cs : List Capability) (s : CapabilitySet) :
      (cs.foldl insert s).contains c = true ↔ c ∈ cs ∨ s.contains c = true := by
    induction cs generalizing s with
    | nil => simp
    | cons d cs ih =>
      rw [List.foldl_cons, ih, contains_insert, Bool.or_eq_true, beq_iff_eq, List.mem_cons,
        @eq_comm _ d, or_left_comm, or_assoc]
  have empty : ¬ ({} : CapabilitySet).contains c = true := by cases c <;> decide
  exact (run cs {}).trans (or_iff_left empty)

theorem nodup_toList (s : CapabilitySet) : s.toList.Nodup :=
  List.Nodup.filter _ (by decide)

end CapabilitySet

theorem PluginSettings.allows_iff (settings : PluginSettings) (name : String) :
    settings.allows name = true ↔ ∀ names ∈ settings.allowList, name ∈ names := by
  unfold allows
  cases settings.allowList <;> simp

namespace Scan

variable (opener : ModuleOpener) (settings : PluginSettings)

/-- The candidate opens and gives this contract, and the declared name is on the list if there is
one. -/
structure Admitted (path : String) (handle : ModuleHandle) (m : Module) : Prop where
  opens : opener.openFile path = .ok handle
  contract : handle.contract = .ok m
  allowed : ∀ names ∈ settings.allowList, m.name ∈ names

variable {opener settings}

theorem opened_eq_ok {path : String} {handle : ModuleHandle} {m : Module} :
    opened opener settings.allows path = .ok (handle, m) ↔
      Admitted opener settings path handle m := by
  unfold opened
  constructor
  · intro h
    cases opens : opener.openFile path with
    | error e => simp [opens] at h
    | ok handle' =>
      cases contract : handle'.contract with
      | error e => simp [opens, contract] at h
      | ok m' =>
        simp only [opens, contract] at h
        split at h
        · next allowed =>
          cases h
          exact ⟨opens, contract, (settings.allows_iff _).mp allowed⟩
        · cases h
  · rintro ⟨opens, contract, allowed⟩
    simp only [opens, contract, (settings.allows_iff _).mpr allowed, if_true]

section capabilities

variable {handle : ModuleHandle} {cs : List Capability}

theorem mem_held {e : EntryPoint} :
    e ∈ held handle cs ↔ e.capability ∈ cs ∧ handle.resolve e.capability = .ok e := by
  have found (c : Capability) :
      (resolved handle c).toOption = some e ↔ resolved handle c = .ok e := by
    cases resolved handle c <;> simp [Except.toOption]
  simp only [held, List.mem_filterMap, found, resolved_eq_ok]
  constructor
  · rintro ⟨c, hc, resolves, rfl⟩
    exact ⟨hc, resolves⟩
  · rintro ⟨hc, resolves⟩
    exact ⟨_, hc, resolves, rfl⟩

variable (handle cs)

theorem perm_held_missed :
    cs.Perm ((held handle cs).map EntryPoint.capability ++ (missed handle cs).map (·.1)) := by
  induction cs with
  | nil => exact .nil
  | cons c cs ih =>
    cases h : resolved handle c with
    | error reason =>
      rw [held_cons_of_error cs h, missed_cons_of_error cs h]
      exact (ih.cons c).trans List.perm_middle.symm
    | ok entry =>
      rw [held_cons_of_ok cs h, missed_cons_of_ok cs h, List.map_cons, (resolved_eq_ok.mp h).2]
      exact ih.cons c

theorem perm_provided_missed (m : Module) :
    m.capabilities.toList.Perm
      ((provided handle m).toList ++ (missed handle m.capabilities.toList).map (·.1)) := by
  have parts := perm_held_missed handle m.capabilities.toList
  have apart := (parts.nodup_iff.mp m.capabilities.nodup_toList).of_append_left
  refine parts.trans (List.Perm.append_right _ ?_)
  refine (List.perm_ext_iff_of_nodup apart (CapabilitySet.nodup_toList _)).mpr fun c => ?_
  rw [CapabilitySet.mem_toList, provided, CapabilitySet.contains_ofList]

end capabilities

/-- What a scan reports on a candidate. If it is admitted, the declared capabilities are those that
are registered, because the module has an entry point of the capability itself, and those that are
missing; otherwise there is one reason why the candidate is left out. -/
inductive Reported (opener : ModuleOpener) (settings : PluginSettings) (path : String) :
    List Descriptor → List Skipped → Prop
  | refused (reason : String) (refusal : ∀ handle m, ¬ Admitted opener settings path handle m) :
    Reported opener settings path [] [{ path, capability := none, reason }]
  | admitted {handle : ModuleHandle} {m : Module} (registered : CapabilitySet)
    (missing : List (Capability × String)) (admitted : Admitted opener settings path handle m)
    (found : ∀ c, registered.contains c = true ↔
      m.capabilities.contains c = true ∧ ∃ e, handle.resolve c = .ok e ∧ e.capability = c)
    (declared : m.capabilities.toList.Perm (registered.toList ++ missing.map (·.1))) :
    Reported opener settings path
      [{ id := (ModulePath.stem? path).getD m.name, path, contract := m, registered }]
      (missing.map (omission path))

theorem contains_provided {handle : ModuleHandle} {m : Module} {c : Capability} :
    (provided handle m).contains c = true ↔
      m.capabilities.contains c = true ∧ ∃ e, handle.resolve c = .ok e ∧ e.capability = c := by
  simp only [provided, CapabilitySet.contains_ofList, List.mem_map, mem_held, CapabilitySet.mem_toList]
  constructor
  · rintro ⟨e, ⟨declared, resolves⟩, rfl⟩
    exact ⟨declared, e, resolves, rfl⟩
  · rintro ⟨declared, e, resolves, rfl⟩
    exact ⟨e, ⟨declared, resolves⟩, rfl⟩

theorem finding_of_admitted {path : String} {handle : ModuleHandle} {m : Module}
    (h : Admitted opener settings path handle m) :
    finding opener settings.allows path = intake path handle m := by
  rw [finding, opened_eq_ok.mpr h]

variable (opener settings)

theorem finding_cases (path : String) :
    (∃ handle m, Admitted opener settings path handle m ∧
      finding opener settings.allows path = intake path handle m) ∨
    ∃ reason, (∀ handle m, ¬ Admitted opener settings path handle m) ∧
      finding opener settings.allows path =
        { skipped := [{ path, capability := none, reason }] } := by
  cases h : opened opener settings.allows path with
  | ok found =>
    have admitted := opened_eq_ok.mp h
    exact .inl ⟨found.1, found.2, admitted, finding_of_admitted admitted⟩
  | error reason =>
    refine .inr ⟨reason, fun handle m admitted => ?_, by rw [finding, h]⟩
    rw [opened_eq_ok.mpr admitted] at h
    cases h

variable {opener settings}

theorem reported_finding (path : String) :
    let f := finding opener settings.allows path
    Reported opener settings path f.descriptors f.skipped := by
  intro f
  obtain ⟨handle, m, admitted, found⟩ | ⟨reason, refusal, found⟩ :=
    finding_cases opener settings path
  · simp only [f, found]
    exact .admitted _ _ admitted (fun _ => contains_provided) (perm_provided_missed handle m)
  · simp only [f, found]
    exact .refused reason refusal

theorem admitted_of_mem_registrations {path : String} {id : PluginId} {e : EntryPoint}
    (h : .entry id e ∈ (finding opener settings.allows path).registrations) :
    ∃ d ∈ (finding opener settings.allows path).descriptors,
      d.id = id ∧ d.registered.contains e.capability = true ∧
        ∃ handle, Admitted opener settings d.path handle d.contract ∧
          handle.resolve e.capability = .ok e := by
  obtain ⟨handle, m, admitted, found⟩ | ⟨reason, refusal, found⟩ :=
    finding_cases opener settings path
  · rw [found] at h ⊢
    refine ⟨_, List.mem_singleton_self _, ?_⟩
    rcases List.mem_append.mp h with entry | contract
    · obtain ⟨e, he, same⟩ := List.mem_map.mp entry
      obtain ⟨rfl, rfl⟩ := Registration.entry.inj same
      obtain ⟨declared, resolves⟩ := mem_held.mp he
      have declared := (CapabilitySet.mem_toList _ _).mp declared
      exact ⟨rfl, contains_provided.mpr ⟨declared, e, resolves, rfl⟩, handle, admitted, resolves⟩
    · cases List.mem_singleton.mp contract
  · rw [found] at h
    cases h

theorem admitted_of_mem_descriptors {path : String} {d : Descriptor}
    (h : d ∈ (finding opener settings.allows path).descriptors) :
    ∃ handle, Admitted opener settings d.path handle d.contract := by
  obtain ⟨handle, m, admitted, found⟩ | ⟨reason, refusal, found⟩ :=
    finding_cases opener settings path
  · rw [found] at h
    obtain rfl := List.mem_singleton.mp h
    exact ⟨handle, admitted⟩
  · rw [found] at h
    cases h

/-- A scan reports on each candidate, in their order. Whatever the registry holds, module or entry
point, was given by a module that was admitted and has a descriptor, under the id of that and, if it
is an entry point, for one of the registered capabilities. -/
theorem accounts_for_candidates (opener : ModuleOpener) (settings : PluginSettings)
    (directory : Option String) :
    let s := run opener settings directory
    let paths := candidates opener directory
    (∃ (taken : String → List Descriptor) (left : String → List Skipped),
      (∀ path ∈ paths, Reported opener settings path (taken path) (left path)) ∧
        s.descriptors = paths.flatMap taken ∧ s.skipped = paths.flatMap left) ∧
      (∀ (id : PluginId) m, s.registry.modules[id]? = some m → ∃ d ∈ s.descriptors,
        d.id = id ∧ d.contract = m ∧ ∃ handle, Admitted opener settings d.path handle m) ∧
      ∀ id e, s.registry.Holds id e → ∃ d ∈ s.descriptors,
        d.id = id ∧ d.registered.contains e.capability = true ∧
          ∃ handle, Admitted opener settings d.path handle d.contract ∧
            handle.resolve e.capability = .ok e := by
  intro s paths
  have scan : s = _ := (run_eq opener settings directory).trans (foldl_visit_empty _ _ paths)
  have descriptors := congrArg Scan.descriptors scan
  have skipped := congrArg Scan.skipped scan
  have registry := congrArg Scan.registry scan
  refine ⟨⟨_, _, fun path _ => reported_finding path, descriptors, skipped⟩, ?_, ?_⟩
  · intro id m held
    have tracked : s.registry.modules = _ := tracks_run opener settings directory
    rw [tracked] at held
    obtain ⟨d, hd, same⟩ := List.mem_map.mp (mem_of_getElem?_putAll held)
    obtain ⟨rfl, rfl⟩ := Prod.mk.inj same
    obtain ⟨path, -, hp⟩ := List.mem_flatMap.mp (descriptors ▸ hd)
    exact ⟨d, hd, rfl, rfl, admitted_of_mem_descriptors hp⟩
  · intro id e held
    rw [registry] at held
    obtain ⟨path, hp, he⟩ := List.mem_flatMap.mp (Registry.mem_of_holds held).1
    obtain ⟨d, hd, provided⟩ := admitted_of_mem_registrations he
    exact ⟨d, descriptors ▸ List.mem_flatMap.mpr ⟨path, hp, hd⟩, provided⟩

theorem accounts_for_candidates_of_list :
    let auditor : EntryPoint := .audit ⟨"any", fun _ => .ok ()⟩
    let handle (name : String) : ModuleHandle :=
      ⟨.ok ⟨name, name, "1", { audit := true, extend := true }, .ok ()⟩, fun _ => .ok auditor⟩
    let opener : ModuleOpener :=
      ⟨fun _ => .ok ["a.so", "b.so", "c.so"], fun path =>
        if path = "a.so" then .ok (handle "a")
        else if path = "b.so" then .ok (handle "b") else .error (.load path "gone")⟩
    let s := run opener { allowList := some ["a", "c"] } none
    s.descriptors.map (fun d => (d.id, d.registered)) = [("a", { audit := true })] ∧
      s.skipped.map (fun k => (k.path, k.capability)) =
        [("a.so", some .extend), ("b.so", none), ("c.so", none)] ∧
      ∀ e, ¬ s.registry.Holds "b" e := by
  intro auditor handle opener s
  have ids : s.descriptors.map (·.id) = ["a"] := by decide +kernel
  obtain ⟨-, -, sources⟩ := accounts_for_candidates opener { allowList := some ["a", "c"] } none
  refine ⟨by decide +kernel, by decide +kernel, fun e held => ?_⟩
  obtain ⟨d, hd, same, -⟩ := sources "b" e held
  have listed := List.mem_map_of_mem (f := Descriptor.id) hd
  rw [same, ids] at listed
  simp at listed

end Scan

end SessionGateway
