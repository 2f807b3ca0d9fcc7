import SessionGateway.Plugin.Stop
import SessionGateway.Proofs.Plugin.Scan

/-! Stopping after a scan. The gate lets the first call through and no other, and that call stops
one module for each id. Two files with one stem share an id, and only the later one is stopped. -/

namespace SessionGateway

namespace StopGate

def stopRepeatedly (g : StopGate) : Nat → List Bool × List PluginCall
  | 0 => ([], [])
  | count + 1 =>
    let (first, g) := g.stopAll
    let later := g.stopRepeatedly count
    (first.1 :: later.1, first.2 ++ later.2)

theorem stopRepeatedly_of_stopped {g : StopGate} (stopped : g.stopped = true) (count : Nat) :
    g.stopRepeatedly count = (.replicate count false, []) := by
  induction count with
  | zero => rfl
  | succ count ih =>
    have first : g.stopAll = ((false, []), g) := if_pos stopped
    simp only [stopRepeatedly, first, ih, List.replicate_succ, List.append_nil]

theorem stopRepeatedly_ofRegistry (r : Registry) (again : Nat) :
    (ofRegistry r).stopRepeatedly (again + 1) =
      (true :: .replicate again false, r.modules.toList.map fun p => .stop p.2.source) := by
  have closed := stopRepeatedly_of_stopped (stopAll_stopped (ofRegistry r)) again
  simp only [stopRepeatedly, closed, List.append_nil]
  rfl

end StopGate

namespace Scan

theorem length_latest_tracked {ds : List Descriptor} :
    (latest (ds.map Descriptor.tracked)).length = ds.length ↔ (ds.map (·.id)).Nodup := by
  -- What each id keeps is a part of the list, and as long as the list only if it is all of it.
  have ids : (ds.map Descriptor.tracked).map (·.1) = ds.map (·.id) := by
    rw [List.map_map]
    rfl
  rw [← ids, ← latest_eq_self]
  constructor
  · intro whole
    exact (List.pwFilter_sublist _).eq_of_length (whole.trans (List.length_map _).symm)
  · intro whole
    rw [whole, List.length_map]

/-- However often the modules are stopped after a scan, the first call stops for each id the module
that was taken in last under it. That is every module of the report, once each, if and only if no
two of them have one id. -/
theorem stops_each_once_iff (opener : ModuleOpener) (settings : PluginSettings)
    (directory : Option String) (again : Nat) :
    let s := run opener settings directory
    let stops := (StopGate.ofRegistry s.registry).stopRepeatedly (again + 1)
    stops.1 = true :: .replicate again false ∧
      stops.2.Perm
        ((latest (s.descriptors.map Descriptor.tracked)).map fun p => .stop p.2.source) ∧
      (stops.2.Perm (s.descriptors.map fun d => .stop d.contract.source) ↔
        (s.descriptors.map (·.id)).Nodup) := by
  intro s stops
  have whole : stops = (true :: .replicate again false, _) :=
    StopGate.stopRepeatedly_ofRegistry s.registry again
  rw [whole]
  have stopped : (s.registry.modules.toList.map fun p => PluginCall.stop p.2.source).Perm
      ((latest (s.descriptors.map Descriptor.tracked)).map fun p => .stop p.2.source) := by
    rw [tracks_run opener settings directory]
    exact (toList_putAll _).map _
  -- What is stopped is a part of the report, so the number of calls already tells.
  refine ⟨rfl, stopped, fun once => ?_, fun apart => ?_⟩
  · have whole := stopped.symm.trans once |>.length_eq
    rw [List.length_map, List.length_map] at whole
    exact length_latest_tracked.mp whole
  · have all : latest (s.descriptors.map Descriptor.tracked) = _ :=
      latest_eq_self.mpr (by rw [List.map_map]; exact apart)
    rw [all, List.map_map] at stopped
    exact stopped

theorem module_not_stopped :
    let auditor : Auditor := ⟨"below", fun _ => .ok ()⟩
    let below : StaticModule :=
      ⟨⟨"below", "below", "1", { audit := true }, .ok ()⟩, [.audit auditor]⟩
    let beside : StaticModule := ⟨⟨"beside", "beside", "1", {}, .ok ()⟩, []⟩
    let shelf : StaticModule.Shelf := (({} : StaticModule.Shelf).add "x" beside).add "d/x" below
    let s := run shelf.opener {} none
    let stops := (StopGate.ofRegistry s.registry).stopRepeatedly 2
    s.descriptors.map (·.contract.source) = ["below", "beside"] ∧
      s.registry.auditors.toList.map (·.2.source) = ["below"] ∧
      stops = ([true, false], [.stop "beside"]) ∧
      ¬ stops.2.Perm (s.descriptors.map fun d => .stop d.contract.source) := by
  intro auditor below beside shelf s stops
  have shared : ¬ (s.descriptors.map (·.id)).Nodup := by decide +kernel
  have kept : s.registry.modules.toList.map (·.2.source) = ["beside"] := by decide +kernel
  have calls := congrArg (List.map PluginCall.stop) kept
  rw [List.map_map] at calls
  have both : stops = ([true, false], _) := StopGate.stopRepeatedly_ofRegistry s.registry 1
  obtain ⟨-, -, once⟩ := stops_each_once_iff shelf.opener {} none 1
  refine ⟨by decide +kernel, by decide +kernel, ?_, fun every => shared (once.mp every)⟩
  exact both.trans (congrArg (Prod.mk [true, false]) calls)

end Scan

end SessionGateway
