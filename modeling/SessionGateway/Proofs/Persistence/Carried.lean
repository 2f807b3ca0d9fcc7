import SessionGateway.Persistence.WriteBehind
import SessionGateway.Proofs.Persistence.Enqueue

/-! A property of the records in the store and of those on their way there. Unlike `Holds` it asks
nothing of the keys that the records lie under. Nothing that the worker does makes a record that
could lack the property, as long as flagging one keeps it. -/

namespace SessionGateway

namespace SessionStore

/-- Every record that can be read has the property, under whatever key it lies. -/
def Reads (P : SessionRecord → Prop) (s : SessionStore) : Prop :=
  ∀ (key : Bytes) bs r, s.tree[key]? = some bs → read bs = .ok r → P r

section Reads

variable {P : SessionRecord → Prop} {s : SessionStore}

theorem reads_empty : Reads P {} := by
  intro key bs r found
  simp at found

theorem Reads.get (hs : s.Reads P) {u : Uuid} {r : SessionRecord} (h : s.get u = .ok (some r)) :
    P r := by
  obtain ⟨bs, stored, read⟩ := get_eq_ok_some.mp h
  exact hs _ bs r stored read

theorem Reads.put {r : SessionRecord} (hs : s.Reads P) (h : r.Fits) (hr : P r.asWritten) :
    (s.put r).Reads P := by
  intro key bs q found hq
  rw [getElem?_put] at found
  split at found
  · obtain rfl : r.asWritten = q := by
      rw [← Option.some.inj found, read_encode h] at hq
      exact Except.ok.inj hq
    exact hr
  · exact hs key bs q found hq

theorem Reads.effect {op : WriteOp} (hs : s.Reads P) (h : op.Carries P)
    (flagged : ∀ r, P r → P r.flagged) : (op.effect s).Reads P := by
  cases op with
  | put r => exact hs.put h.1 h.2
  | delete u =>
    intro key bs r found read
    rw [WriteOp.effect, getElem?_delete] at found
    split at found
    · cases found
    · exact hs key bs r found read
  | flag u =>
    rw [WriteOp.effect]
    split
    · next r found =>
      obtain ⟨fits, legible⟩ := fits_of_get found
      refine hs.put fits.flagged ?_
      rw [legible.flagged.asWritten]
      exact flagged r (hs.get found)
    · exact hs

end Reads

end SessionStore

namespace WriteQueue

/-- Every record in the store, and every one that is still to be written, has the property. -/
structure Carries (P : SessionRecord → Prop) (q : WriteQueue) (b : Backend) : Prop where
  pending : ∀ op ∈ q.pending, op.Carries P
  stored : b.store.Reads P

namespace Carries

variable {P : SessionRecord → Prop} {q q' : WriteQueue} {b b' : Backend}

theorem of_pending (h : q.Carries P b) (same : q'.pending = q.pending) : q'.Carries P b :=
  ⟨same ▸ h.pending, h.stored⟩

theorem read (h : q.Carries P b) (same : b'.store = b.store) : q.Carries P b' :=
  ⟨h.pending, same ▸ h.stored⟩

theorem enqueue (h : q.Carries P b) {op : WriteOp} (carries : op.Carries P) :
    (q.enqueue op).2.Carries P b := by
  refine ⟨fun op' member => ?_, h.stored⟩
  rw [pending_enqueue] at member
  split at member
  · rcases List.mem_append.mp member with old | new
    · exact h.pending op' old
    · exact List.mem_singleton.mp new ▸ carries
  · exact h.pending op' member

section worker

variable (h : q.Carries P b) (flagged : ∀ r, P r → P r.flagged)

include h flagged

theorem worked (worked : q.Worked b q' b') : q'.Carries P b' := by
  refine ⟨fun op member => h.pending op (worked.pending.subset member), ?_⟩
  refine worked.store (SessionStore.Reads P) (fun op member store hs => ?_) h.stored
  exact hs.effect (h.pending op member) flagged

theorem drain (fuel : Nat) : (drain fuel q b).2.1.Carries P (WriteQueue.drain fuel q b).2.2 := by
  induction fuel generalizing q b with
  | zero => exact h
  | succ fuel ih =>
    have sent : q.sendBarrier.Carries P b := h.of_pending q.pending_sendBarrier
    have handled := sent.worked flagged (q.sendBarrier.worked_work b)
    rw [WriteQueue.drain]
    rw [work] at handled
    cases received : q.sendBarrier.receive with
    | none => exact h
    | some next =>
      rw [received] at handled
      exact ih handled

theorem retryAt (ticks : Nat) :
    (WriteBehind.retryAt ticks q b).1.Carries P (WriteBehind.retryAt ticks q b).2 := by
  induction ticks with
  | zero => exact h
  | succ ticks ih => exact ih.worked flagged (worked_retry _ _)

end worker

end Carries

end WriteQueue

namespace WriteBehind

variable {P : SessionRecord → Prop} {w : WriteBehind} {b : Backend}

theorem pending_wake (w : WriteBehind) (now : Nat) :
    (w.wake now).queue.pending = w.queue.pending := by
  unfold wake start
  grind [WriteQueue.pending]

section carries

variable (h : w.queue.Carries P b) (flagged : ∀ r, P r → P r.flagged) (now : Nat)

include h flagged

theorem carries_run : (w.run now b).2.1.queue.Carries P (w.run now b).2.2 := by
  have woken := h.of_pending (w.pending_wake now)
  unfold run work
  split
  · exact (woken.drain flagged _).retryAt flagged _
  · exact woken

theorem carries_flush : (w.flush now b).2.1.queue.Carries P (w.flush now b).2.2 := by
  unfold flush
  split
  · have asked : (w.queue.beginFlush 0).Carries P b := h.of_pending (w.queue.pending_beginFlush 0)
    exact carries_run (w := { w with queue := w.queue.beginFlush 0 }) asked flagged now
  · exact h

theorem carries_close : (w.close now b).1.queue.Carries P (w.close now b).2 := by
  have woken := h.of_pending (w.pending_wake now)
  unfold close
  dsimp only
  split
  · exact (woken.drain flagged _).worked flagged (WriteQueue.worked_retry _ _)
  · exact woken

end carries

end WriteBehind

end SessionGateway
