import SessionGateway.Proofs.Persistence.StoreHistory

/-! Visits of the active records. A visitor is shown the records that can be read and are not
flagged, each once and in the order of their keys, until it wants no other. -/

namespace SessionGateway.SessionStore

section entries

def activeEntry? (entry : Bytes × Bytes) : Option (Bytes × SessionRecord) :=
  match read entry.2 with
  | .ok r => if r.invalidated then none else some (entry.1, r)
  | .error _ => none

/-- The records that a visit can show, with their keys. -/
def activeEntries (s : SessionStore) : List (Bytes × SessionRecord) :=
  s.tree.toList.filterMap activeEntry?

variable {s : SessionStore} {key bs : Bytes} {r : SessionRecord}

theorem activeEntry?_eq_some {entry : Bytes × Bytes} {key : Bytes} :
    activeEntry? entry = some (key, r) ↔
      entry.1 = key ∧ read entry.2 = .ok r ∧ r.invalidated = false := by
  unfold activeEntry?
  cases read entry.2 with
  | error e => simp
  | ok q => cases flag : q.invalidated <;> grind

theorem map_activeEntries (s : SessionStore) : s.activeEntries.map (·.2) = s.active := by
  rw [activeEntries, active, List.map_filterMap]
  congr 1
  funext ⟨key, bs⟩
  unfold activeEntry?
  dsimp only
  cases read bs with
  | error e => rfl
  | ok r =>
    dsimp only
    cases r.invalidated <;> rfl

theorem mem_activeEntries :
    (key, r) ∈ s.activeEntries ↔
      ∃ bs, s.tree[key]? = some bs ∧ read bs = .ok r ∧ r.invalidated = false := by
  rw [activeEntries, List.mem_filterMap]
  constructor
  · rintro ⟨⟨key', bs⟩, entry, shown⟩
    obtain ⟨rfl, rest⟩ := activeEntry?_eq_some.mp shown
    exact ⟨bs, Std.ExtTreeMap.mem_toList_iff_getElem?_eq_some.mp entry, rest⟩
  · rintro ⟨bs, entry, rest⟩
    exact ⟨(key, bs), Std.ExtTreeMap.mem_toList_iff_getElem?_eq_some.mpr entry,
      activeEntry?_eq_some.mpr ⟨rfl, rest⟩⟩

theorem mem_activeEntries_bytes {u : Uuid} :
    (u.bytes, r) ∈ s.activeEntries ↔ s.get u = .ok (some r) ∧ r.invalidated = false := by
  simp only [mem_activeEntries, get_eq_ok_some, ← and_assoc, exists_and_right]

theorem pairwise_activeEntries (s : SessionStore) :
    s.activeEntries.Pairwise fun a b => compare a.1 b.1 = .lt := by
  refine List.Pairwise.filterMap _ (fun a b before a' ha b' hb => ?_) s.tree.ordered_keys_toList
  obtain ⟨sameA, -⟩ := activeEntry?_eq_some.mp ha
  obtain ⟨sameB, -⟩ := activeEntry?_eq_some.mp hb
  exact sameA ▸ sameB ▸ before

end entries

section visitor

variable {σ : Type} (visitor : σ → SessionRecord → σ × Bool)

/-- The visitor, which also keeps what it was shown. -/
def recording : σ × List SessionRecord → SessionRecord → (σ × List SessionRecord) × Bool :=
  fun (state, shown) r => (((visitor state r).1, shown ++ [r]), (visitor state r).2)

def stateAfter (start : σ) (shown : List SessionRecord) : σ :=
  shown.foldl (fun state r => (visitor state r).1) start

/-- The visitor wants another record after this one, which comes behind others. -/
def wantsMore (start : σ) (before : List SessionRecord) (r : SessionRecord) : Bool :=
  (visitor (stateAfter visitor start before) r).2

/-- The records, from the front and up to the first after which the visitor wants no other. -/
structure Visited (start : σ) (records shown : List SessionRecord) : Prop where
  fromFront : shown <+: records
  wanted : ∀ before r after, shown = before ++ r :: after → after ≠ [] →
    wantsMore visitor start before r = true
  ended : shown ≠ records →
    ∃ before r, shown = before ++ [r] ∧ wantsMore visitor start before r = false

variable {visitor} {start : σ} {records shown : List SessionRecord} {r : SessionRecord}

theorem Visited.nil : Visited visitor start [] [] :=
  ⟨List.nil_prefix, fun before r after h => by simp at h, fun h => absurd rfl h⟩

theorem Visited.last (ends : (visitor start r).2 = false) (records : List SessionRecord) :
    Visited visitor start (r :: records) [r] := by
  refine ⟨⟨records, rfl⟩, fun before q after h more => ?_, fun _ => ⟨[], r, rfl, ends⟩⟩
  cases before <;> simp_all

theorem Visited.cons (more : (visitor start r).2 = true)
    (h : Visited visitor (visitor start r).1 records shown) :
    Visited visitor start (r :: records) (r :: shown) := by
  refine ⟨List.cons_prefix_cons.mpr ⟨rfl, h.fromFront⟩, fun before q after split rest => ?_,
    fun unfinished => ?_⟩
  · cases before with
    | nil =>
      cases split
      exact more
    | cons p before =>
      cases split
      exact h.wanted before q after rfl rest
  · obtain ⟨before, q, split, ends⟩ := h.ended fun same => unfinished (same ▸ rfl)
    exact ⟨r :: before, q, by rw [split, List.cons_append], ends⟩

theorem visitAll_recording (visitor : σ → SessionRecord → σ × Bool) (records : List SessionRecord)
    (start : σ) : ∃ shown, Visited visitor start records shown ∧
      visitAll visitor start records = stateAfter visitor start shown ∧
      ∀ earlier, visitAll (recording visitor) (start, earlier) records =
        (stateAfter visitor start shown, earlier ++ shown) := by
  induction records generalizing start with
  | nil => exact ⟨[], .nil, rfl, fun earlier => by rw [List.append_nil]; rfl⟩
  | cons r records ih =>
    rcases answer : visitor start r with ⟨state, more⟩
    cases more with
    | false =>
      refine ⟨[r], .last (by rw [answer]) records, ?_, fun earlier => ?_⟩
      · simp only [visitAll, answer, stateAfter, List.foldl_cons, List.foldl_nil]
      · simp only [visitAll, recording, answer, stateAfter, List.foldl_cons, List.foldl_nil]
    | true =>
      obtain ⟨shown, visited, whole, kept⟩ := ih state
      have next : (visitor start r).1 = state := by rw [answer]
      refine ⟨r :: shown, .cons (by rw [answer]) (next ▸ visited), ?_, fun earlier => ?_⟩
      · simp only [visitAll, answer, whole, stateAfter, List.foldl_cons]
      · simp only [visitAll, recording, answer, stateAfter, List.foldl_cons]
        exact (kept _).trans (by simp [stateAfter])

end visitor

theorem holds_ofChanges {changes : List StoreChange} (fits : ∀ r, .put r ∈ changes → r.Fits) :
    (ofChanges changes).Holds fun _ => True := by
  induction changes using List.reverseRecOn with
  | nil => exact holds_empty
  | append_singleton changes c ih =>
    have before := ih fun r put => fits r (List.mem_append_left _ put)
    have step : ofChanges (changes ++ [c]) = (ofChanges changes).after c := List.foldl_append
    rw [step]
    cases c with
    | put r => exact before.put (fits r List.mem_concat_self) trivial
    | delete u => exact before.delete u

/-- A visit shows the records that can be read and are not flagged, each once and by their keys,
and ends with the first after which the visitor wants no other; what cannot be read or is flagged
does not end it. It leaves the store as it is. What lies under the key of a session is shown as it
is found under its identifier, and a store that was only written by puts and deletes has nothing
else to show. -/
theorem visitActive_visited {σ : Type} (s : SessionStore)
    (visitor : σ → SessionRecord → σ × Bool) (start : σ) :
    let visit := s.visitActive (recording visitor) (start, [])
    s.visitActive visitor start = visit.1 ∧ visit.1 = stateAfter visitor start visit.2 ∧
      (∀ b : Backend, b.store = s → b.range.2.store = s) ∧
      ∃ entries : List (Bytes × SessionRecord),
        (∀ key r, (key, r) ∈ entries ↔
          ∃ bs, s.tree[key]? = some bs ∧ read bs = .ok r ∧ r.invalidated = false) ∧
        (entries.Pairwise fun a b => compare a.1 b.1 = .lt) ∧
        Visited visitor start (entries.map (·.2)) visit.2 ∧
        (∀ (u : Uuid) r, (u.bytes, r) ∈ entries ↔
          s.get u = .ok (some r) ∧ r.invalidated = false) ∧
        ∀ changes, s = ofChanges changes → (∀ r, .put r ∈ changes → r.Fits) →
          ∀ key r, (key, r) ∈ entries → key = r.uuid.bytes := by
  intro visit
  obtain ⟨shown, visited, whole, kept⟩ := visitAll_recording visitor s.active start
  have run : visit = (stateAfter visitor start shown, shown) := kept []
  refine ⟨whole.trans (congrArg Prod.fst run).symm, ?_, fun b same => b.store_range.trans same,
    s.activeEntries, fun key r => mem_activeEntries, s.pairwise_activeEntries, ?_,
    fun u r => mem_activeEntries_bytes, ?_⟩
  · rw [run]
  · rw [run, map_activeEntries]
    exact visited
  · rintro changes rfl fits key r member
    obtain ⟨bs, found, readable, -⟩ := mem_activeEntries.mp member
    exact (holds_ofChanges fits key bs r found readable).1

theorem visitActive_visited_two :
    let u (n : UInt8) : Uuid := ⟨n :: List.replicate 15 0, rfl⟩
    let r (n : UInt8) : SessionRecord := ⟨u n, "kim", .epoch, .epoch, .latest, [n], n == 3⟩
    let changes : List StoreChange :=
      [.put (r 5), .put (r 4), .put (r 3), .put (r 2), .put (r 255), .delete (u 4)]
    let s := ofChanges changes
    let visit := s.visitActive (recording fun n _ => (n + 1, decide (n + 1 < 2))) (0, [])
    visit = (2, [r 2, r 5]) ∧ s.get (u 2) = .ok (some (r 2)) ∧ s.get (u 5) = .ok (some (r 5)) := by
  intro u r changes s visit
  have fits : ∀ q, .put q ∈ changes → q.Fits := by
    have user : "kim".utf8ByteSize < 2 ^ 64 := by decide
    have each (n : UInt8) : (r n).Fits := ⟨user, show 1 < 2 ^ 64 by decide⟩
    intro q put
    simp only [changes, List.mem_cons, StoreChange.put.injEq, reduceCtorEq, or_false,
      List.not_mem_nil] at put
    rcases put with rfl | rfl | rfl | rfl | rfl <;> exact each _
  have shown : visit = (2, [r 2, r 5]) := by decide +kernel
  obtain ⟨-, -, -, entries, -, -, visited, look, keys⟩ :=
    visitActive_visited s (fun n _ => (n + 1, decide (n + 1 < 2))) 0
  have found (n : UInt8) (member : r n ∈ visit.2) : s.get (u n) = .ok (some (r n)) := by
    obtain ⟨⟨key, q⟩, entry, rfl⟩ := List.mem_map.mp (visited.fromFront.subset member)
    obtain rfl := keys changes rfl fits key _ entry
    exact ((look (u n) (r n)).mp entry).1
  exact ⟨shown, found 2 (by rw [shown]; simp), found 5 (by rw [shown]; simp)⟩

end SessionGateway.SessionStore
