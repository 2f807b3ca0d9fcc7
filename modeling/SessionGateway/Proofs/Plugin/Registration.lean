import SessionGateway.Proofs.Plugin.Registry

/-! Rows of registrations. Each writes pairs into the parts of a registry, so a row leaves the pairs
of all of them. If no two are for one capability of one module, and none takes a segment from
another, the maps do not depend on the order of the row and the validators stand in its order. -/

namespace SessionGateway

namespace EntryPoint

def auditor? : EntryPoint → Option Auditor
  | audit a => some a
  | _ => none

def validator? : EntryPoint → Option Validator
  | validator v => some v
  | _ => none

def authenticator? : EntryPoint → Option Authenticator
  | auth a => some a
  | _ => none

def listener? : EntryPoint → Option DataListener
  | dataEvent l => some l
  | _ => none

end EntryPoint

/-- The contract of a module, or an entry point under the id of its module. -/
inductive Registration where
  | contract (id : PluginId) (m : Module)
  | entry (id : PluginId) (e : EntryPoint)

namespace Registration

/-- A module has one contract, and one entry point for each capability. -/
def slot : Registration → PluginId × Option Capability
  | contract id _ => (id, none)
  | entry id e => (id, some e.capability)

def modules : Registration → List (PluginId × Module)
  | contract id m => [(id, m)]
  | entry _ _ => []

/-- The entry point under the id of its module, if it is one of those that are looked for. -/
def entries {α : Type} (value? : EntryPoint → Option α) : Registration → List (PluginId × α)
  | contract _ _ => []
  | entry id e => (value? e).toList.map fun value => (id, value)

def validators : Registration → List (PluginId × Validator) :=
  entries EntryPoint.validator?

def extensions : Registration → List (String × PluginId × Extension)
  | entry id (.extend e) => e.holdings id
  | _ => []

/-- At most one pair is written, by registrations of one kind and under the id of their module. -/
def ById {α : Type} (written : Registration → List (PluginId × α)) (kind : Option Capability) :
    Prop :=
  ∀ c, written c = [] ∨ ∃ id value, c.slot = (id, kind) ∧ written c = [(id, value)]

theorem byId_modules : ById modules none
  | contract id m => .inr ⟨id, m, rfl, rfl⟩
  | entry _ _ => .inl rfl

theorem byId_entries {α : Type} {value? : EntryPoint → Option α} {c : Capability}
    (kind : ∀ e value, value? e = some value → e.capability = c) :
    ById (entries value?) (some c)
  | contract _ _ => .inl rfl
  | entry id e => by
    rw [entries]
    cases found : value? e with
    | none => exact .inl rfl
    | some value =>
      refine .inr ⟨id, value, ?_, rfl⟩
      rw [slot, kind e value found]

theorem byId_auditors : ById (entries EntryPoint.auditor?) (some .audit) :=
  byId_entries fun e _ found => by cases e <;> first | rfl | cases found

theorem byId_validators : ById validators (some .validator) :=
  byId_entries fun e _ found => by cases e <;> first | rfl | cases found

theorem byId_authenticators : ById (entries EntryPoint.authenticator?) (some .auth) :=
  byId_entries fun e _ found => by cases e <;> first | rfl | cases found

theorem byId_listeners : ById (entries EntryPoint.listener?) (some .dataEvent) :=
  byId_entries fun e _ found => by cases e <;> first | rfl | cases found

theorem ById.nodup_keys {α : Type} {written : Registration → List (PluginId × α)}
    {kind : Option Capability} (h : ById written kind) {cs : List Registration}
    (slots : (cs.map slot).Nodup) : ((cs.flatMap written).map (·.1)).Nodup := by
  have keys (c : Registration) : (written c).Pairwise fun p q => p.1 ≠ q.1 := by
    obtain absent | ⟨id, value, -, one⟩ := h c
    · exact absent ▸ .nil
    · exact one ▸ List.pairwise_singleton _ _
  have apart {c d : Registration} (slots : c.slot ≠ d.slot) :
      ∀ p ∈ written c, ∀ q ∈ written d, p.1 ≠ q.1 := by
    intro p hp q hq same
    obtain absent | ⟨id, value, slot, one⟩ := h c
    · simp [absent] at hp
    obtain absent | ⟨id', value', slot', one'⟩ := h d
    · simp [absent] at hq
    rw [one, List.mem_singleton] at hp
    rw [one', List.mem_singleton] at hq
    subst hp hq
    exact slots (slot.trans ((congrArg (·, kind) same).trans slot'.symm))
  rw [List.Nodup, List.pairwise_map, List.pairwise_flatMap]
  exact ⟨fun c _ => keys c, (List.pairwise_map.mp slots).imp apart⟩

/-- No registration of the row replaces what another one has written. -/
structure Apart (cs : List Registration) : Prop where
  slots : (cs.map slot).Nodup
  segments : ∀ p ∈ cs.flatMap extensions, ∀ q ∈ cs.flatMap extensions, p.1 = q.1 → p = q

theorem Apart.perm {cs ds : List Registration} (h : Apart cs) (same : cs.Perm ds) : Apart ds where
  slots := (same.map slot).nodup_iff.mp h.slots
  segments p hp q hq :=
    h.segments p ((same.flatMap_right extensions).mem_iff.mpr hp) q
      ((same.flatMap_right extensions).mem_iff.mpr hq)

end Registration

namespace Registry

open Registration

def register (r : Registry) : Registration → Registry
  | .contract id m => r.addModule id m
  | .entry id e => r.addEntry id e

def ofRegistrations (cs : List Registration) : Registry :=
  cs.foldl register {}

/-- Validators keep the place of their first registration. -/
def putValidators (vs ps : List (PluginId × Validator)) : List (PluginId × Validator) :=
  ps.foldl (fun vs p => replaceOrAppend p.1 p.2 vs) vs

/-- A registry after pairs were written into each of its parts by a row of registrations. -/
def putEach (r : Registry) (cs : List Registration) : Registry where
  modules := putAll r.modules (cs.flatMap Registration.modules)
  auditors := putAll r.auditors (cs.flatMap (entries EntryPoint.auditor?))
  validators := putValidators r.validators (cs.flatMap Registration.validators)
  extensions := putAll r.extensions (cs.flatMap Registration.extensions)
  authenticators := putAll r.authenticators (cs.flatMap (entries EntryPoint.authenticator?))
  listeners := putAll r.listeners (cs.flatMap (entries EntryPoint.listener?))

theorem register_eq (r : Registry) (c : Registration) : r.register c = r.putEach [c] := by
  cases c with
  | contract id m => rfl
  | entry id e =>
    cases e with
    | extend e =>
      have one : [Registration.entry id (.extend e)].flatMap Registration.extensions =
          e.holdings id := List.append_nil _
      rw [putEach, one]
      exact r.addEntry_extend id e
    | _ => rfl

theorem foldl_register (cs : List Registration) (r : Registry) :
    cs.foldl register r = r.putEach cs := by
  induction cs generalizing r with
  | nil => rfl
  | cons c cs ih =>
    rw [List.foldl_cons, ih, register_eq]
    simp only [putEach, putAll, putValidators, ← List.foldl_append, ← List.flatMap_append,
      List.singleton_append]

theorem ofRegistrations_eq (cs : List Registration) :
    ofRegistrations cs = ({} : Registry).putEach cs :=
  foldl_register cs {}

theorem putValidators_eq_append {vs ps : List (PluginId × Validator)}
    (keys : ((vs ++ ps).map (·.1)).Nodup) : putValidators vs ps = vs ++ ps := by
  induction ps generalizing vs with
  | nil => exact (List.append_nil vs).symm
  | cons p ps ih =>
    have free : p.1 ∉ vs.map (·.1) := by
      rw [List.map_append, List.map_cons, List.nodup_middle, List.nodup_cons] at keys
      exact fun taken => keys.1 (List.mem_append_left _ taken)
    change putValidators (replaceOrAppend p.1 p.2 vs) ps = _
    rw [replaceOrAppend_of_not_mem free, ih (by rwa [List.append_assoc]), List.append_assoc]
    rfl

variable {cs ds : List Registration}

theorem validators_ofRegistrations (apart : Apart cs) :
    (ofRegistrations cs).validators = cs.flatMap Registration.validators := by
  rw [ofRegistrations_eq]
  exact putValidators_eq_append (byId_validators.nodup_keys apart.slots)

theorem ofRegistrations_eq_of_perm (apart : Apart cs) (same : cs.Perm ds) :
    { ofRegistrations cs with validators := [] } =
      { ofRegistrations ds with validators := [] } := by
  have byId {α : Type} {written : Registration → List (PluginId × α)} {kind : Option Capability}
      (h : ById written kind) :
      putAll ∅ (cs.flatMap written) = putAll ∅ (ds.flatMap written) :=
    putAll_eq_of_perm (same.flatMap_right written)
      (List.inj_on_of_nodup_map (h.nodup_keys apart.slots)) ∅
  -- A module may claim one segment twice, so extensions have no distinct keys to go by.
  have bySegment := putAll_eq_of_perm (same.flatMap_right Registration.extensions) apart.segments ∅
  rw [ofRegistrations_eq, ofRegistrations_eq]
  simp only [putEach, byId byId_modules, byId byId_auditors, byId byId_authenticators,
    byId byId_listeners, bySegment]

end Registry

/-- One validator for each id that was registered, in the order of the first registrations and each
as it was registered last. -/
structure Validator.Latest (registered vs : List (PluginId × Validator)) : Prop where
  distinct : (vs.map (·.1)).Nodup
  order : vs.map (·.1) = (registered.map (·.1)).eraseDups
  last : ∀ p ∈ vs, registered.reverse.find? (·.1 = p.1) = some p

namespace Validator.Latest

variable {registered vs : List (PluginId × Validator)}

theorem empty : Latest [] [] :=
  ⟨.nil, rfl, fun _ h => by cases h⟩

theorem exists_mem (h : Latest registered vs) {p : PluginId × Validator} (hp : p ∈ registered) :
    ∃ v, (p.1, v) ∈ vs := by
  have listed : p.1 ∈ vs.map (·.1) := by
    rw [h.order, List.mem_eraseDups]
    exact List.mem_map_of_mem hp
  obtain ⟨⟨_, v⟩, hv, rfl⟩ := List.mem_map.mp listed
  exact ⟨v, hv⟩

theorem replaceOrAppend (h : Latest registered vs) (p : PluginId × Validator) :
    Latest (registered ++ [p]) (replaceOrAppend p.1 p.2 vs) where
  distinct := by
    rw [map_fst_replaceOrAppend]
    split
    · exact h.distinct
    · next free => exact List.nodup_append.mpr ⟨h.distinct, List.nodup_singleton _, by grind⟩
  order := by
    rw [map_fst_replaceOrAppend, h.order, List.map_append, List.eraseDups_append]
    by_cases again : p.1 ∈ registered.map (·.1)
    · simp [List.removeAll, again]
    · simp [List.removeAll, again, List.eraseDups_cons]
  last q hq := by
    rw [List.reverse_append, List.reverse_singleton, List.singleton_append, List.find?_cons]
    rcases eq_or_of_mem_replaceOrAppend h.distinct hq with rfl | ⟨kept, other⟩
    · simp
    · simp [Ne.symm other, h.last q kept]

theorem putValidators (h : Latest registered vs) (ps : List (PluginId × Validator)) :
    Latest (registered ++ ps) (Registry.putValidators vs ps) := by
  induction ps generalizing registered vs with
  | nil => rwa [List.append_nil]
  | cons p ps ih =>
    rw [← List.singleton_append, ← List.append_assoc]
    exact ih (h.replaceOrAppend p)

theorem ofRegistrations (cs : List Registration) :
    Latest (cs.flatMap Registration.validators) (Registry.ofRegistrations cs).validators := by
  rw [Registry.ofRegistrations_eq]
  exact empty.putValidators _

end Validator.Latest

end SessionGateway
