import SessionGateway.Persistence.SessionStore
import SessionGateway.Proofs.Session.RecordBytes

/-! The store as a map from identifiers to records. A property of its records is kept by writing
records that have it and by deleting; that a record lies under its own identifier is kept too. -/

namespace SessionGateway

theorem Uuid.bytes_inj {u v : Uuid} : u.bytes = v.bytes ↔ u = v := by
  constructor
  · intro h
    cases u; cases v; cases h
    rfl
  · rintro rfl
    rfl

namespace SessionStore

abbrev Answer := Except StorageError (Option SessionRecord)

theorem read_encode {r : SessionRecord} (h : r.Fits) : read r.encode = .ok r.asWritten := by
  rw [read, SessionRecord.decode_encode h]
  rfl

theorem fits_of_read {bs : Bytes} {r : SessionRecord} (h : read bs = .ok r) :
    r.Fits ∧ r.Legible := by
  unfold read at h
  cases hd : SessionRecord.decode bs with
  | error fault =>
    rw [hd] at h
    cases h
  | ok s =>
    rw [hd] at h
    cases h
    exact SessionRecord.fits_of_decode hd

theorem get_eq_ok_none {s : SessionStore} {u : Uuid} :
    s.get u = .ok none ↔ s.tree[u.bytes]? = none := by
  unfold get
  cases s.tree[u.bytes]? with
  | none => simp
  | some bs => cases h : read bs <;> simp [h, Except.map]

theorem get_eq_ok_some {s : SessionStore} {u : Uuid} {r : SessionRecord} :
    s.get u = .ok (some r) ↔ ∃ bs, s.tree[u.bytes]? = some bs ∧ read bs = .ok r := by
  unfold get
  cases s.tree[u.bytes]? with
  | none => simp
  | some bs => cases h : read bs <;> simp [h, Except.map]

theorem fits_of_get {s : SessionStore} {u : Uuid} {r : SessionRecord}
    (h : s.get u = .ok (some r)) : r.Fits ∧ r.Legible := by
  obtain ⟨bs, -, hr⟩ := get_eq_ok_some.mp h
  exact fits_of_read hr

theorem getElem?_put (s : SessionStore) (r : SessionRecord) (key : Bytes) :
    (s.put r).tree[key]? = if r.uuid.bytes = key then some r.encode else s.tree[key]? := by
  simp [put, Std.ExtTreeMap.getElem?_insert]

theorem getElem?_delete (s : SessionStore) (u : Uuid) (key : Bytes) :
    (s.delete u).tree[key]? = if u.bytes = key then none else s.tree[key]? := by
  simp [delete, Std.ExtTreeMap.getElem?_erase]

theorem get_put {r : SessionRecord} (h : r.Fits) (s : SessionStore) (u : Uuid) :
    (s.put r).get u = if r.uuid = u then .ok (some r.asWritten) else s.get u := by
  unfold get
  rw [getElem?_put]
  by_cases same : r.uuid = u
  · simp [same, read_encode h, Except.map]
  · simp [same, Uuid.bytes_inj]

theorem map_asWritten_get (s : SessionStore) (u : Uuid) :
    (s.get u).map (Option.map SessionRecord.asWritten) = s.get u := by
  match found : s.get u with
  | .error e => rfl
  | .ok none => rfl
  | .ok (some r) => simp [Except.map, (fits_of_get found).2.asWritten]

theorem get_delete (s : SessionStore) (u v : Uuid) :
    (s.delete u).get v = if u = v then .ok none else s.get v := by
  unfold get
  rw [getElem?_delete]
  by_cases same : u = v
  · simp [same]
  · simp [same, Uuid.bytes_inj]

/-- Every record that can be read lies under its own identifier and has the property. -/
def Holds (P : SessionRecord → Prop) (s : SessionStore) : Prop :=
  ∀ key bs r, s.tree[key]? = some bs → read bs = .ok r → key = r.uuid.bytes ∧ P r

/-- Whatever is in the store can be read. -/
def Readable (s : SessionStore) : Prop :=
  ∀ (key : Bytes) bs, s.tree[key]? = some bs → ∃ r, read bs = .ok r

section Holds

variable {P Q : SessionRecord → Prop} {s : SessionStore}

theorem Holds.mono (hs : s.Holds P) (h : ∀ r, P r → Q r) : s.Holds Q :=
  fun key bs r found hr => ⟨(hs key bs r found hr).1, h r (hs key bs r found hr).2⟩

theorem Holds.get {u : Uuid} {r : SessionRecord} (hs : s.Holds P) (h : s.get u = .ok (some r)) :
    r.uuid = u ∧ P r := by
  obtain ⟨bs, found, hr⟩ := get_eq_ok_some.mp h
  obtain ⟨key, property⟩ := hs _ _ _ found hr
  exact ⟨(Uuid.bytes_inj.mp key).symm, property⟩

theorem Holds.put {r : SessionRecord} (hs : s.Holds P) (h : r.Fits) (hr : P r.asWritten) :
    (s.put r).Holds P := by
  intro key bs q found hq
  rw [getElem?_put] at found
  split at found
  · next same =>
    obtain rfl : r.asWritten = q := by
      rw [← Option.some.inj found, read_encode h] at hq
      exact Except.ok.inj hq
    exact ⟨same.symm, hr⟩
  · exact hs key bs q found hq

theorem Holds.delete (hs : s.Holds P) (u : Uuid) : (s.delete u).Holds P := by
  intro key bs q found hq
  rw [getElem?_delete] at found
  split at found
  · cases found
  · exact hs key bs q found hq

theorem holds_empty : Holds P {} := by
  intro key bs r found
  simp at found

theorem Holds.active {r : SessionRecord} (hs : s.Holds P) (h : r ∈ s.active) :
    s.get r.uuid = .ok (some r) ∧ r.invalidated = false := by
  obtain ⟨⟨key, bs⟩, entry, read⟩ := List.mem_filterMap.mp h
  have found := Std.ExtTreeMap.mem_toList_iff_getElem?_eq_some.mp entry
  dsimp only at read
  split at read
  · next q hq =>
    split at read
    · cases read
    · next unflagged =>
      cases read
      obtain ⟨key, -⟩ := hs _ _ _ found hq
      exact ⟨get_eq_ok_some.mpr ⟨bs, key ▸ found, hq⟩, by simpa using unflagged⟩
  · cases read

theorem Readable.put {r : SessionRecord} (hs : s.Readable) (h : r.Fits) : (s.put r).Readable := by
  intro key bs found
  rw [getElem?_put] at found
  split at found
  · exact ⟨r.asWritten, Option.some.inj found ▸ read_encode h⟩
  · exact hs key bs found

theorem Readable.delete (hs : s.Readable) (u : Uuid) : (s.delete u).Readable := by
  intro key bs found
  rw [getElem?_delete] at found
  split at found
  · cases found
  · exact hs key bs found

theorem Readable.get (hs : s.Readable) (u : Uuid) : ∃ x, s.get u = .ok x := by
  unfold SessionStore.get
  cases found : s.tree[u.bytes]? with
  | none => exact ⟨none, rfl⟩
  | some bs =>
    obtain ⟨r, hr⟩ := hs _ _ found
    exact ⟨some r, by simp [hr, Except.map]⟩

end Holds

end SessionStore

end SessionGateway
