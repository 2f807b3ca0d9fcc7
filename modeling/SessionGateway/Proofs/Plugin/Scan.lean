import SessionGateway.Plugin.Loader
import SessionGateway.Proofs.Plugin.Registration

/-! The scan and its report. Each candidate adds its findings to those of the candidates before it:
a descriptor, what was left out, and the registrations that were made for it. -/

namespace SessionGateway

def Descriptor.tracked (d : Descriptor) : PluginId × Module :=
  (d.id, d.contract)

namespace Scan

theorem resolved_eq_ok {handle : ModuleHandle} {c : Capability} {entry : EntryPoint} :
    resolved handle c = .ok entry ↔ handle.resolve c = .ok entry ∧ entry.capability = c := by
  unfold resolved
  cases handle.resolve c with
  | error e => simp
  | ok found =>
    by_cases same : found.capability = c
    · simp only [same, if_true, Except.ok.injEq]
      exact ⟨fun h => ⟨h, h ▸ same⟩, And.left⟩
    · simp only [same, if_false, Except.ok.injEq, reduceCtorEq, false_iff]
      rintro ⟨rfl, h⟩
      exact same h

def held (handle : ModuleHandle) (cs : List Capability) : List EntryPoint :=
  cs.filterMap fun c => (resolved handle c).toOption

/-- The capabilities among these that a module has no entry point for, with the reasons. -/
def missed (handle : ModuleHandle) (cs : List Capability) : List (Capability × String) :=
  cs.filterMap fun c =>
    match resolved handle c with
    | .ok _ => none
    | .error reason => some (c, reason)

section cons

variable {handle : ModuleHandle} {c : Capability} (cs : List Capability)

theorem held_cons_of_error {reason : String} (h : resolved handle c = .error reason) :
    held handle (c :: cs) = held handle cs :=
  List.filterMap_cons_none (by rw [h]; rfl)

theorem missed_cons_of_error {reason : String} (h : resolved handle c = .error reason) :
    missed handle (c :: cs) = (c, reason) :: missed handle cs :=
  List.filterMap_cons_some (by rw [h])

theorem held_cons_of_ok {entry : EntryPoint} (h : resolved handle c = .ok entry) :
    held handle (c :: cs) = entry :: held handle cs :=
  List.filterMap_cons_some (by rw [h]; rfl)

theorem missed_cons_of_ok {entry : EntryPoint} (h : resolved handle c = .ok entry) :
    missed handle (c :: cs) = missed handle cs :=
  List.filterMap_cons_none (by rw [h])

end cons

def omission (path : String) (m : Capability × String) : Skipped :=
  { path, capability := some m.1, reason := m.2 }

theorem classify_eq (path : String) (id : PluginId) (handle : ModuleHandle)
    (cs : List Capability) (s : Scan) (found : CapabilitySet) :
    classify path id handle cs (s, found) =
      ({ s with
          registry := ((held handle cs).map (.entry id)).foldl Registry.register s.registry
          skipped := s.skipped ++ (missed handle cs).map (omission path) },
        ((held handle cs).map EntryPoint.capability).foldl CapabilitySet.insert found) := by
  induction cs generalizing s found with
  | nil => simp [classify, held, missed]
  | cons c cs ih =>
    rw [classify, ih]
    cases h : resolved handle c with
    | error reason =>
      rw [held_cons_of_error cs h, missed_cons_of_error cs h]
      simp [skip, omission]
    | ok entry =>
      rw [held_cons_of_ok cs h, missed_cons_of_ok cs h, List.map_cons, List.map_cons,
        List.foldl_cons, List.foldl_cons, (resolved_eq_ok.mp h).2]
      rfl

structure Finding where
  descriptors : List Descriptor := []
  skipped : List Skipped := []
  registrations : List Registration := []

/-- The declared capabilities that a module has entry points for. -/
def provided (handle : ModuleHandle) (m : Module) : CapabilitySet :=
  .ofList ((held handle m.capabilities.toList).map EntryPoint.capability)

def intake (path : String) (handle : ModuleHandle) (m : Module) : Finding :=
  let id := (ModulePath.stem? path).getD m.name
  let entries := held handle m.capabilities.toList
  { descriptors := [{ id, path, contract := m, registered := provided handle m }]
    skipped := (missed handle m.capabilities.toList).map (omission path)
    registrations := entries.map (.entry id) ++ [.contract id m] }

def finding (opener : ModuleOpener) (allowed : String → Bool) (path : String) : Finding :=
  match opened opener allowed path with
  | .error reason => { skipped := [{ path, capability := none, reason }] }
  | .ok (handle, m) => intake path handle m

def record (s : Scan) (fs : List Finding) : Scan where
  registry := (fs.flatMap Finding.registrations).foldl Registry.register s.registry
  descriptors := s.descriptors ++ fs.flatMap Finding.descriptors
  skipped := s.skipped ++ fs.flatMap Finding.skipped

theorem record_record (s : Scan) (fs gs : List Finding) :
    (s.record fs).record gs = s.record (fs ++ gs) := by
  simp only [record, List.flatMap_append, List.foldl_append, List.append_assoc]

theorem accept_eq (s : Scan) (path : String) (handle : ModuleHandle) (m : Module) :
    s.accept path handle m = s.record [intake path handle m] := by
  rw [accept, classify_eq]
  simp [record, intake, provided, CapabilitySet.ofList]
  rfl

variable (opener : ModuleOpener) (allowed : String → Bool)

theorem visit_eq (s : Scan) (path : String) :
    s.visit opener allowed path = s.record [finding opener allowed path] := by
  unfold visit finding
  cases opened opener allowed path with
  | error reason => simp [record, skip]
  | ok found => exact s.accept_eq path found.1 found.2

theorem foldl_visit (paths : List String) (s : Scan) :
    paths.foldl (visit opener allowed) s = s.record (paths.map (finding opener allowed)) := by
  induction paths generalizing s with
  | nil => simp [record]
  | cons path paths ih =>
    rw [List.foldl_cons, ih, visit_eq, record_record]
    rfl

theorem foldl_visit_empty (paths : List String) :
    let found := finding opener allowed
    paths.foldl (visit opener allowed) {} =
      { registry := .ofRegistrations (paths.flatMap fun path => (found path).registrations)
        descriptors := paths.flatMap fun path => (found path).descriptors
        skipped := paths.flatMap fun path => (found path).skipped } := by
  intro found
  rw [foldl_visit, record, List.flatMap_map, List.flatMap_map, List.flatMap_map]
  rfl

/-- The files that are looked at; there are none if the directory cannot be read. -/
def candidates (opener : ModuleOpener) (directory : Option String) : List String :=
  (opener.candidates directory).toOption.getD []

theorem run_eq (settings : PluginSettings) (directory : Option String) :
    run opener settings directory =
      (candidates opener directory).foldl (visit opener settings.allows) {} := by
  unfold run into candidates
  cases opener.candidates directory <;> rfl

/-- The modules of the registry are those of the descriptors. -/
def Tracks (s : Scan) : Prop :=
  s.registry.modules = putAll ∅ (s.descriptors.map Descriptor.tracked)

theorem modules_finding (path : String) :
    (finding opener allowed path).registrations.flatMap Registration.modules =
      (finding opener allowed path).descriptors.map Descriptor.tracked := by
  unfold finding
  cases opened opener allowed path with
  | error reason => rfl
  | ok found =>
    have entries (id : PluginId) (es : List EntryPoint) :
        (es.map (.entry id)).flatMap Registration.modules = [] :=
      List.flatMap_eq_nil_iff.mpr fun c hc => by obtain ⟨e, -, rfl⟩ := List.mem_map.mp hc; rfl
    dsimp only [intake]
    rw [List.flatMap_append, entries]
    rfl

theorem tracks_run (settings : PluginSettings) (directory : Option String) :
    (run opener settings directory).Tracks := by
  rw [run_eq, foldl_visit_empty, Tracks, Registry.ofRegistrations_eq]
  change putAll ∅ _ = putAll ∅ _
  rw [List.flatMap_assoc, List.map_flatMap]
  simp only [modules_finding]

end Scan

end SessionGateway
