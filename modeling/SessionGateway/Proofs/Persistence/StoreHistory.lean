import Mathlib.Data.List.Induction
import SessionGateway.Proofs.Persistence.Journal

/-! The store after any row of changes. What is found under an identifier is the record of the last
change about it as it is written, if that one was a put, and nothing else is ever found. -/

namespace SessionGateway

inductive StoreChange where
  | put (r : SessionRecord)
  | delete (u : Uuid)

namespace StoreChange

def uuid : StoreChange → Uuid
  | put r => r.uuid
  | delete u => u

def stored? : StoreChange → Option SessionRecord
  | put r => some r.asWritten
  | delete _ => none

theorem stored?_eq_some {c : StoreChange} {q : SessionRecord} :
    c.stored? = some q ↔ ∃ r, c = .put r ∧ r.asWritten = q := by
  cases c <;> simp [stored?]

/-- The record was put, and no later change is about its identifier. -/
structure LastPut (changes : List StoreChange) (u : Uuid) (r : SessionRecord) : Prop where
  uuid : r.uuid = u
  last : ∃ before after, changes = before ++ .put r :: after ∧ ∀ c ∈ after, c.uuid ≠ u

variable {changes : List StoreChange} {c : StoreChange} {u : Uuid} {r : SessionRecord}

theorem LastPut.mem (h : LastPut changes u r) : .put r ∈ changes := by
  obtain ⟨before, after, rfl, -⟩ := h.last
  exact List.mem_append_cons_self

theorem not_lastPut_nil : ¬ LastPut [] u r := by
  rintro ⟨-, before, after, h, -⟩
  simp at h

theorem lastPut_append_singleton :
    LastPut (changes ++ [c]) u r ↔ if c.uuid = u then c = .put r else LastPut changes u r := by
  constructor
  · rintro ⟨uuid, before, after, h, quiet⟩
    obtain ⟨mid, rfl, rfl⟩ | ⟨mid, -, h⟩ := append_eq_append_cons h
    · rw [if_neg (quiet c (by simp))]
      exact ⟨uuid, before, mid, rfl, fun d hd => quiet d (List.mem_append_left _ hd)⟩
    · obtain rfl : c = .put r := by cases mid <;> simp_all
      exact (if_pos uuid).mpr rfl
  · split
    · next same =>
      rintro rfl
      exact ⟨same, changes, [], rfl, by simp⟩
    · next other =>
      rintro ⟨uuid, before, after, rfl, quiet⟩
      refine ⟨uuid, before, after ++ [c], by simp, fun d hd => ?_⟩
      rcases List.mem_append.mp hd with hd | hd
      · exact quiet d hd
      · exact List.mem_singleton.mp hd ▸ other

end StoreChange

namespace SessionStore

open StoreChange

def after (s : SessionStore) : StoreChange → SessionStore
  | .put r => s.put r
  | .delete u => s.delete u

def ofChanges (changes : List StoreChange) : SessionStore :=
  changes.foldl after {}

theorem get_after {c : StoreChange} (fits : ∀ r, c = .put r → r.Fits) (s : SessionStore)
    (u : Uuid) : (s.after c).get u = if c.uuid = u then .ok c.stored? else s.get u := by
  cases c with
  | put r => exact get_put (fits r rfl) s u
  | delete v => exact get_delete s v u

theorem get_ofChanges {changes : List StoreChange} (fits : ∀ r, .put r ∈ changes → r.Fits)
    (u : Uuid) :
    ∃ found, (ofChanges changes).get u = .ok found ∧
      ∀ q, found = some q ↔ ∃ r, LastPut changes u r ∧ r.asWritten = q := by
  -- By the last change: it alone decides what lies under its identifier, and no other is touched.
  induction changes using List.reverseRecOn with
  | nil => exact ⟨none, rfl, fun q => by simp [not_lastPut_nil]⟩
  | append_singleton changes c ih =>
    have step : ofChanges (changes ++ [c]) = (ofChanges changes).after c := List.foldl_append
    rw [step, get_after fun r put => fits r (put ▸ List.mem_concat_self)]
    simp only [lastPut_append_singleton]
    split
    · exact ⟨c.stored?, rfl, fun q => stored?_eq_some⟩
    · exact ih fun r put => fits r (List.mem_append_left _ put)

/-- A record reads back from its bytes as it is written, whatever follows them, and so as itself if
its times are legible. After any row of puts and deletes exactly the record of the last put of an
identifier is found under it, as it was written, unless it was deleted since. The lengths of texts
and credentials are written in eight bytes; longer ones do not exist. -/
theorem get_ofChanges_iff :
    (∀ (r : SessionRecord) (rest : Bytes),
      (SessionRecord.decode (r.encode ++ rest) = .ok r ↔ r.Fits ∧ r.Legible) ∧
      (r.Fits → SessionRecord.decode (r.encode ++ rest) = .ok r.asWritten)) ∧
    ∀ changes : List StoreChange, (∀ r, .put r ∈ changes → r.Fits) → ∀ u : Uuid,
      ((∀ r, .put r ∈ changes → r.Legible) →
        ∀ r, (ofChanges changes).get u = .ok (some r) ↔ LastPut changes u r) ∧
      (∀ q, (ofChanges changes).get u = .ok (some q) ↔
        ∃ r, LastPut changes u r ∧ r.asWritten = q) ∧
      ((ofChanges changes).get u = .ok none ↔ ∀ r, ¬ LastPut changes u r) ∧
      ∀ q, (ofChanges changes).get u = .ok (some q) → q.uuid = u := by
  constructor
  · intro r rest
    have reads : r.Fits → SessionRecord.decode (r.encode ++ rest) = .ok r.asWritten := by
      intro fits
      rw [SessionRecord.decode, SessionRecord.read_encode fits]
      rfl
    refine ⟨⟨SessionRecord.fits_of_decode, fun readable => ?_⟩, reads⟩
    rw [reads readable.1, readable.2.asWritten]
  · intro changes fits u
    obtain ⟨found, get, last⟩ := get_ofChanges fits u
    have some_iff (q : SessionRecord) : (ofChanges changes).get u = .ok (some q) ↔
        ∃ r, LastPut changes u r ∧ r.asWritten = q := by
      rw [get, Except.ok.injEq]
      exact last q
    refine ⟨fun legible r => ?_, some_iff, ?_, fun q h => ?_⟩
    · have written {q : SessionRecord} (h : LastPut changes u q) : q.asWritten = q :=
        (legible q h.mem).asWritten
      rw [some_iff]
      constructor
      · rintro ⟨q, h, rfl⟩
        rwa [written h]
      · exact fun h => ⟨r, h, written h⟩
    · rw [get, Except.ok.injEq, Option.eq_none_iff_forall_not_mem]
      constructor
      · exact fun none r h => none r.asWritten ((last _).mpr ⟨r, h, rfl⟩)
      · rintro none q h
        obtain ⟨r, h, -⟩ := (last q).mp h
        exact none r h
    · obtain ⟨r, put, rfl⟩ := (some_iff q).mp h
      exact put.uuid

theorem get_after_second_put :
    let leap : Instant := ⟨1483228799, 1999999999, by decide, by decide⟩
    let u : Uuid := ⟨List.replicate 16 255, rfl⟩
    let r : SessionRecord := ⟨u, "né\x00 ", .latest, leap, .earliest, [0, 255], true⟩
    let other : SessionRecord := { r with uuid := .zero, invalidated := false }
    let changes : List StoreChange := [.put { r with user := "" }, .put other, .delete u, .put r,
      .delete .zero]
    SessionRecord.decode (r.encode ++ [7, 7]) = .ok r ∧
      (ofChanges changes).get u = .ok (some r) ∧ (ofChanges changes).get .zero = .ok none := by
  intro leap u r other changes
  have whole : r.Fits := ⟨by decide +kernel, by decide⟩
  have dated : r.Legible := ⟨by decide, by decide, by decide⟩
  have puts : ∀ q, .put q ∈ changes → q.Fits ∧ q.Legible := by
    intro q put
    simp only [changes, List.mem_cons, StoreChange.put.injEq, reduceCtorEq, false_or, or_false,
      List.not_mem_nil] at put
    rcases put with rfl | rfl | rfl
    · exact ⟨⟨by decide +kernel, whole.credential⟩, dated.1, dated.2, dated.3⟩
    · exact ⟨⟨whole.user, whole.credential⟩, dated.1, dated.2, dated.3⟩
    · exact ⟨whole, dated⟩
  have last : LastPut changes u r := ⟨rfl, changes.take 3, [.delete .zero], rfl, by decide +kernel⟩
  have gone (q : SessionRecord) : ¬ LastPut (changes.take 4 ++ [.delete .zero]) .zero q := by
    rw [lastPut_append_singleton]
    exact nofun
  obtain ⟨lossless, history⟩ := get_ofChanges_iff
  have fits : ∀ q, .put q ∈ changes → q.Fits := fun q put => (puts q put).1
  have legible : ∀ q, .put q ∈ changes → q.Legible := fun q put => (puts q put).2
  exact ⟨(lossless r _).1.mpr ⟨whole, dated⟩, ((history changes fits u).1 legible r).mpr last,
    (history changes fits .zero).2.2.1.mpr gone⟩

/-- Half a second into a leap second in the middle of a minute. It is written as the second after
it, half a second in, and what is read expires that much later. -/
theorem get_other_than_put :
    let r : SessionRecord :=
      ⟨.zero, "", .epoch, .epoch, ⟨4102444830, 1500000000, by decide, by decide⟩, [], false⟩
    let q : SessionRecord := { r with expiresAt := ⟨4102444831, 500000000, by decide, by decide⟩ }
    q ≠ r ∧ SessionRecord.decode r.encode = .ok q ∧ LastPut [.put r] .zero r ∧
      (ofChanges [.put r]).get .zero = .ok (some q) ∧
      r.isExpired ⟨4102444831, 0, by decide, by decide⟩ = true ∧
      q.isExpired ⟨4102444831, 0, by decide, by decide⟩ = false := by
  intro r q
  have fits : r.Fits := ⟨by decide, by decide⟩
  have written : r.asWritten = q := by decide +kernel
  have read : SessionRecord.decode r.encode = .ok q := written ▸ SessionRecord.decode_encode fits
  have found : (ofChanges [.put r]).get .zero = .ok (some q) := written ▸ get_put fits {} .zero
  exact ⟨by decide, read, ⟨rfl, [], [], rfl, by simp⟩, found, by decide, by decide⟩

end SessionStore

end SessionGateway
