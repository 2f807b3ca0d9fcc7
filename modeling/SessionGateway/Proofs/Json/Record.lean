import SessionGateway.Proofs.Json.Document
import SessionGateway.Proofs.Map
import SessionGateway.Settings.Document

/-! Values that are written as documents and read back. If single values come back, then so do lists
of them, values that may be missing, and maps; and a record comes back if it is an object with a
member for each field in their order. Of a time only the form in which it is written comes back. -/

namespace SessionGateway.Json

/-- What is written has no part that is kept as its source, and what is read from it is the value
in the form in which it is written. -/
structure ReadsAs {α : Type} (form : α → α) (write : α → Json) (read : Json → Option α) : Prop where
  plain (x : α) : (write x).Plain
  read_write (x : α) : read (write x) = some (form x)

abbrev Faithful {α : Type} (write : α → Json) (read : Json → Option α) : Prop :=
  ReadsAs (fun x => x) write read

section fields

theorem lookup_of_mem {ms : List (String × Json)} (once : (ms.map (·.1)).Nodup)
    {m : String × Json} (member : m ∈ ms) : ms.lookup m.1 = some m.2 := by
  induction ms with
  | nil => cases member
  | cons n ms ih =>
    obtain ⟨k, v⟩ := n
    rw [List.map_cons, List.nodup_cons] at once
    rcases List.mem_cons.mp member with rfl | behind
    · exact List.lookup_cons_self
    · have other : m.1 ≠ k := fun same => once.1 (List.mem_map.mpr ⟨m, behind, same⟩)
      rw [List.lookup_cons, beq_false_of_ne other]
      exact ih once.2 behind

theorem fields?_obj {names : List String} {ms : List (String × Json)}
    (named : ms.map (·.1) = names) (once : names.Nodup) :
    (obj ms).fields? names = some (ms.map (.given ·.2)) := by
  subst named
  have slots : (ms.map (·.1)).map (fun name => (ms.lookup name).elim Slot.absent Slot.given) =
      ms.map (.given ·.2) := by
    rw [List.map_map]
    refine List.map_congr_left fun m member => ?_
    rw [Function.comp_apply, lookup_of_mem once member]
    rfl
  rw [fields?, if_pos (by simp [length_filter_key_le once]), slots]

section slots

variable {α : Type} (read : Json → Option α) (v : Json)

@[simp] theorem Slot.required_given : (Slot.given v).required read = read v := rfl

@[simp] theorem Slot.withDefault_given (value : α) :
    (Slot.given v).withDefault value read = read v := rfl

@[simp] theorem Slot.optional_given : (Slot.given v).optional read = nullable read v := by
  cases v <;> rfl

end slots

end fields

section values

theorem faithful_text : Faithful str text? :=
  ⟨.str, fun _ => rfl⟩

theorem faithful_bool : Faithful bool bool? :=
  ⟨.bool, fun _ => rfl⟩

theorem unsigned?_int {bits n : Nat} (fits : n < Nat.pow 2 bits) :
    (int n).unsigned? bits = some n :=
  if_pos fits

theorem faithful_word : Faithful word word? where
  plain n := .int _
  read_write n := by
    rw [word, word?, unsigned?_int n.toNat_lt, Option.map_some, UInt64.ofNat_toNat]

theorem mapM_map {α : Type} {write : α → Json} {read : Json → Option α}
    (values : Faithful write read) (xs : List α) : (xs.map write).mapM read = some xs := by
  induction xs with
  | nil => rfl
  | cons x xs ih => simp [values.read_write, ih]

theorem Faithful.list {α : Type} {write : α → Json} {read : Json → Option α}
    (values : Faithful write read) : Faithful (fun xs => arr (xs.map write)) (list? read) where
  plain _ := .arr (List.forall_mem_map.mpr fun x _ => values.plain x)
  read_write xs := mapM_map values xs

theorem faithful_bytes : Faithful ofBytes bytes? := by
  have byte : Faithful (fun b : UInt8 => int b.toNat)
      (fun v => (v.unsigned? 8).map UInt8.ofNat) :=
    ⟨fun b => .int _, fun b => by
      rw [unsigned?_int b.toNat_lt, Option.map_some, UInt8.ofNat_toNat]⟩
  exact byte.list

theorem ReadsAs.option {α : Type} {form : α → α} {write : α → Json} {read : Json → Option α}
    (values : ReadsAs form write read) (filled : ∀ x, write x ≠ null) :
    ReadsAs (Option.map form) (ofOption write) (nullable read) where
  plain
    | none => .null
    | some x => values.plain x
  read_write
    | none => rfl
    | some x => by
      rw [ofOption, nullable.eq_2 _ _ (filled x), values.read_write, Option.map_some,
        Option.map_some]

theorem Faithful.option {α : Type} {write : α → Json} {read : Json → Option α}
    (values : Faithful write read) (filled : ∀ x, write x ≠ null) :
    Faithful (ofOption write) (nullable read) := by
  have options := ReadsAs.option values filled
  rwa [Option.map_id_fun'] at options

theorem faithful_label {α : Type} {label : α → String} {all : List α}
    (complete : ∀ x, x ∈ all) (apart : Function.Injective label) :
    Faithful (fun x => str (label x))
      (fun v => v.label?.bind fun name => all.find? (label · = name)) where
  plain x := .str _
  read_write x := by
    change all.find? (fun y => label y = label x) = some x
    have some : (all.find? (label · = label x)).isSome :=
      List.find?_isSome.mpr ⟨x, complete x, by simp⟩
    obtain ⟨y, found⟩ := Option.isSome_iff_exists.mp some
    have same : label y = label x := by simpa using List.find?_some found
    rw [found, apart same]

/-- An object as a map; of a key that is given twice the last value counts. -/
def map? {α : Type} (read : Json → Option α) : Json → Option (Std.ExtTreeMap String α)
  | obj ms => ms.foldlM (fun m (key, v) => (read v).map (m.insert key)) ∅
  | _ => none

theorem foldlM_insert {α : Type} {write : α → Json} {read : Json → Option α}
    (values : Faithful write read) (ps : List (String × α)) (m : Std.ExtTreeMap String α) :
    (ps.map fun (key, x) => (key, write x)).foldlM
      (fun m (key, v) => (read v).map (m.insert key)) m = some (putAll m ps) := by
  induction ps generalizing m with
  | nil => rfl
  | cons p ps ih =>
    rw [List.map_cons, List.foldlM_cons]
    simp only [values.read_write, Option.map_some, Option.bind_eq_bind, Option.bind_some, ih]
    rfl

theorem Faithful.map {α : Type} {write : α → Json} {read : Json → Option α}
    (values : Faithful write read) :
    Faithful (fun m : Std.ExtTreeMap String α =>
      obj (m.toList.map fun (key, x) => (key, write x))) (map? read) where
  plain _ := .obj (List.forall_mem_map.mpr fun p _ => values.plain p.2)
  read_write m := by rw [map?, foldlM_insert values, putAll_toList]

end values

theorem ReadsAs.parse?_render {α : Type} {form : α → α} {write : α → Json} {read : Json → Option α}
    (values : ReadsAs form write read) (x : α) :
    (parse? (write x).render).bind read = some (form x) := by
  rw [Json.parse?_render (values.plain x), Option.bind_some, values.read_write]

end SessionGateway.Json
