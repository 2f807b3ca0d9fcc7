import SessionGateway.Chain.Authentication
import SessionGateway.Proofs.Chain.Extension
import SessionGateway.Proofs.Plugin.Registration

/-! Modules loaded in two orders. If their ids differ and they claim different segments, the order
of the registrations shows in the order of the validators only, and in no answer of a chain. -/

namespace SessionGateway

/-- A module under its id, with one entry point for each capability at most. -/
structure Package where
  id : PluginId
  contract : Module
  entries : List EntryPoint
  distinct : (entries.map EntryPoint.capability).Nodup

namespace Package

def registrations (p : Package) : List Registration :=
  .contract p.id p.contract :: p.entries.map (.entry p.id)

def segments (p : Package) : List String :=
  p.entries.flatMap fun
    | .extend e => e.segments
    | _ => []

theorem nodup_slots (p : Package) : (p.registrations.map Registration.slot).Nodup := by
  have entries : (p.entries.map (.entry p.id)).map Registration.slot =
      (p.entries.map EntryPoint.capability).map fun c => (p.id, some c) := by
    rw [List.map_map, List.map_map]
    rfl
  have apart : ((p.entries.map EntryPoint.capability).map fun c => (p.id, some c)).Nodup :=
    p.distinct.map fun c d same => Option.some.inj (Prod.mk.inj same).2
  rw [registrations, List.map_cons, entries]
  exact List.nodup_cons.mpr ⟨by simp [Registration.slot], apart⟩

theorem fst_slot {p : Package} {c : Registration} (h : c ∈ p.registrations) : c.slot.1 = p.id := by
  rcases List.mem_cons.mp h with rfl | h
  · rfl
  · obtain ⟨e, -, rfl⟩ := List.mem_map.mp h
    rfl

theorem eq_of_mem_extensions {p : Package} {x : String × PluginId × Extension}
    (h : x ∈ p.registrations.flatMap Registration.extensions) :
    ∃ e, .extend e ∈ p.entries ∧ x.1 ∈ p.segments ∧ x.2 = (p.id, e) := by
  obtain ⟨c, hc, hx⟩ := List.mem_flatMap.mp h
  rcases List.mem_cons.mp hc with rfl | hc
  · cases hx
  · obtain ⟨entry, he, rfl⟩ := List.mem_map.mp hc
    cases entry with
    | extend e =>
      obtain ⟨segment, hs, rfl⟩ := List.mem_map.mp hx
      exact ⟨e, he, List.mem_flatMap.mpr ⟨_, he, hs⟩, rfl⟩
    | _ => cases hx

theorem eq_of_mem_entries {p : Package} {e e' : Extension} (h : .extend e ∈ p.entries)
    (h' : .extend e' ∈ p.entries) : e = e' :=
  EntryPoint.extend.inj (List.inj_on_of_nodup_map p.distinct h h' rfl)

/-- Modules whose ids differ and that claim different segments. -/
structure Apart (ps : List Package) : Prop where
  ids : (ps.map Package.id).Nodup
  segments : ∀ p ∈ ps, ∀ q ∈ ps, p.id ≠ q.id → p.segments.Disjoint q.segments

theorem Apart.registrations {ps : List Package} (h : Apart ps) :
    Registration.Apart (ps.flatMap Package.registrations) := by
  constructor
  · rw [List.map_flatMap, List.nodup_flatMap]
    refine ⟨fun p _ => p.nodup_slots, (List.pairwise_map.mp h.ids).imp fun {p q} apart => ?_⟩
    intro slot hp hq
    obtain ⟨c, hc, rfl⟩ := List.mem_map.mp hp
    obtain ⟨d, hd, same⟩ := List.mem_map.mp hq
    exact apart ((fst_slot hc).symm.trans ((congrArg Prod.fst same).symm.trans (fst_slot hd)))
  · intro x hx y hy same
    rw [List.flatMap_assoc] at hx hy
    obtain ⟨p, hp, hx⟩ := List.mem_flatMap.mp hx
    obtain ⟨q, hq, hy⟩ := List.mem_flatMap.mp hy
    obtain ⟨e, he, hs, hx⟩ := eq_of_mem_extensions hx
    obtain ⟨e', he', hs', hy⟩ := eq_of_mem_extensions hy
    by_cases one : p.id = q.id
    · obtain rfl := List.inj_on_of_nodup_map h.ids hp hq one
      obtain rfl := eq_of_mem_entries he he'
      exact Prod.ext same (hx.trans hy.symm)
    · exact absurd (same ▸ hs') (h.segments p hp q hq one hs)

/-- Whatever the order in which the modules and their entry points are registered: the maps are the
same, the validators are the same up to the order of their registration, and access is decided,
requests are answered and logins are recognized alike. -/
theorem order_independent {ps : List Package} (apart : Apart ps) {cs ds : List Registration}
    (first : cs.Perm (ps.flatMap Package.registrations))
    (second : ds.Perm (ps.flatMap Package.registrations)) :
    let r := Registry.ofRegistrations cs
    let s := Registry.ofRegistrations ds
    r.modules = s.modules ∧ r.auditors = s.auditors ∧ r.extensions = s.extensions ∧
      r.authenticators = s.authenticators ∧ r.listeners = s.listeners ∧
      r.validators = cs.flatMap Registration.validators ∧
      s.validators = ds.flatMap Registration.validators ∧
      r.validators.Perm s.validators ∧
      (∀ a : Access, (a.decide r).1 = (a.decide s).1) ∧
      (∀ principal request, (r.route principal request).1 = (s.route principal request).1) ∧
      (∀ login : LoginRequest, (login.recognizedBy r).1 = (login.recognizedBy s).1) := by
  intro r s
  have same := first.trans second.symm
  have apart := apart.registrations.perm first.symm
  obtain ⟨modules, auditors, -, extensions, authenticators, listeners⟩ :=
    Registry.mk.inj (Registry.ofRegistrations_eq_of_perm apart same)
  have validators : r.validators = cs.flatMap Registration.validators :=
    Registry.validators_ofRegistrations apart
  have validators' : s.validators = ds.flatMap Registration.validators :=
    Registry.validators_ofRegistrations (apart.perm same)
  have reordered : r.validators.Perm s.validators := by
    rw [validators, validators']
    exact same.flatMap_right _
  refine ⟨modules, auditors, extensions, authenticators, listeners, validators, validators',
    reordered, fun a => a.fst_decide_eq_of_perm reordered,
    fun principal request => r.fst_route_eq_of_perm principal request extensions reordered,
    fun login => ?_⟩
  exact congrArg (fun found => (login.ask found.toList).1) authenticators

theorem order_independent_of_reverse :
    let guard (name : String) (role : Role) : EntryPoint :=
      .validator ⟨name, fun a => if a.role = role then .error ⟨none⟩ else .ok true⟩
    let page (name : String) (claims : List String) : EntryPoint :=
      .extend ⟨name, claims, fun _ _ _ => .error (.notImplemented name)⟩
    let contract (name : String) : Module := ⟨name, name, "1", {}, .ok ()⟩
    let a : Package := ⟨"a", contract "a", [guard "a" .read, page "a" ["/left/", "l"]], by decide⟩
    let b : Package := ⟨"b", contract "b", [page "b" ["r", "/r"], guard "b" .write], by decide⟩
    let cs := [a, b].flatMap registrations
    let r := Registry.ofRegistrations cs
    let s := Registry.ofRegistrations cs.reverse
    r.validators.map (·.1) = ["a", "b"] ∧ s.validators.map (·.1) = ["b", "a"] ∧
      r.extensions = s.extensions ∧
      ∀ principal request, (r.route principal request).1 = (s.route principal request).1 := by
  intro guard page contract a b cs r s
  have left : a.segments = ["left", "l"] := by decide +kernel
  have right : b.segments = ["r", "r"] := by decide +kernel
  have apart : Apart [a, b] := ⟨by decide, by simp [left, right]⟩
  obtain ⟨-, -, extensions, -, -, validators, validators', -, -, route, -⟩ :=
    order_independent apart (.refl cs) cs.reverse_perm
  refine ⟨?_, ?_, extensions, route⟩
  · exact congrArg (List.map (·.1)) validators
  · exact congrArg (List.map (·.1)) validators'

end Package

end SessionGateway
