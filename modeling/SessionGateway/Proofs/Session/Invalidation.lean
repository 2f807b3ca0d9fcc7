import SessionGateway.Proofs.Session.Sane

/-! What becomes of an invalidation when there is room in the channel. Its write is taken even
while the queue is disabled, with one exception: to flag a cached session the whole record is
written, and a disabled queue takes that for a new record and refuses it. -/

namespace SessionGateway

namespace WriteOp

/-- After this write no usable record of the session is left. -/
def Ends (u : Uuid) : WriteOp → Prop
  | put r => r.uuid = u ∧ r.invalidated = true
  | delete v => v = u
  | flag v => v = u

theorem Ends.uuid {u : Uuid} {op : WriteOp} (h : op.Ends u) : op.uuid = u := by
  cases op with
  | put r => exact h.1
  | delete v => exact h
  | flag v => exact h

theorem Ends.onRecord {u : Uuid} {op : WriteOp} (h : op.Ends u) (x : Option SessionRecord) :
    op.onRecord (.ok x) = .ok none ∨
      ∃ r, op.onRecord (.ok x) = .ok (some r) ∧ r.invalidated = true := by
  cases op with
  | put r => exact .inr ⟨r.asWritten, rfl, h.2⟩
  | delete v => exact .inl rfl
  | flag v =>
    cases x with
    | none => exact .inl rfl
    | some r => exact .inr ⟨r.flagged, rfl, rfl⟩

end WriteOp

namespace WriteQueue

/-- A queue and a backend where every write succeeds. -/
structure Smooth (P : SessionRecord → Prop) (q : WriteQueue) (b : Backend) : Prop where
  healthy : b.Healthy
  readable : b.store.Readable
  holds : b.store.Holds P
  carry : ∀ op ∈ q.pending, op.Carries P

variable {P : SessionRecord → Prop} {q q' : WriteQueue} {b b' : Backend}

theorem Smooth.worked (h : Smooth P q b) (flagged : ∀ r, P r → P r.flagged)
    (worked : Worked q b q' b') : Smooth P q' b' := by
  refine ⟨worked.later.healthy h.healthy, ?_, ?_, fun op member => h.carry op
    (worked.pending.subset member)⟩
  · exact worked.store SessionStore.Readable
      (fun op member s hs => WriteOp.readable_effect hs (h.carry op member)) h.readable
  · exact worked.store (SessionStore.Holds P)
      (fun op member s hs => WriteOp.holds_effect hs (h.carry op member) flagged) h.holds

end WriteQueue

namespace SessionManager

variable {m : SessionManager} {u : Uuid}

theorem invalidation_ends (key : ∀ x, m.cache.get? u = some x → x.uuid = u) :
    (m.invalidation u (m.cache.get? u)).Ends u := by
  rcases m.invalidation_cases u with asked | asked | ⟨x, cached, asked⟩
  · rw [asked]
    rfl
  · rw [asked]
    rfl
  · rw [asked]
    exact ⟨key x cached, rfl⟩

end SessionManager

end SessionGateway
