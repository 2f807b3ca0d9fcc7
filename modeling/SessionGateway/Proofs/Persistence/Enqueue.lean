import SessionGateway.Proofs.Persistence.Worker

/-! What is put into the queue. A write is accepted if the channel is open and has room, and a
record only if the queue is not disabled. A write that was accepted is tried after everything that
was pending; one that was refused is counted. Barriers write nothing. -/

namespace SessionGateway

namespace WriteQueue

variable (q : WriteQueue) (op : WriteOp)

theorem enqueue_accepted :
    (q.enqueue op).1 = true ↔ q.attached = true ∧ q.hasRoom = true ∧
      ¬ (q.disabled = true ∧ op.isInvalidation = false) := by
  unfold enqueue
  split
  · next h => simp_all
  · split
    · next h => simp_all
    · split
      · next h => simp_all
      · next h => simp_all

theorem enqueue_cases :
    ((q.enqueue op).1 = true ∧ (q.enqueue op).2 =
      { q with channel := q.channel ++ [.write op], depth := q.depth + 1 }) ∨
    (q.enqueue op).1 = false ∧ ∃ disabled lastError,
      (q.enqueue op).2 = { q with dropped := q.dropped + 1, disabled, lastError } ∧
        (disabled = true → q.disabled = true ∨ q.attached = true ∧ ¬ q.hasRoom = true) := by
  unfold enqueue
  split
  · exact .inr ⟨rfl, _, _, rfl, .inl⟩
  · split
    · exact .inr ⟨rfl, _, _, rfl, .inl⟩
    · next opened =>
      split
      · exact .inl ⟨rfl, rfl⟩
      · next full =>
        have attached : q.attached = true := by simpa using opened
        refine .inr ⟨rfl, ?_⟩
        unfold saturate
        split
        · exact ⟨_, _, rfl, .inl⟩
        · exact ⟨_, _, rfl, fun _ => .inr ⟨attached, full⟩⟩

theorem channel_enqueue :
    (q.enqueue op).2.channel =
      if (q.enqueue op).1 = true then q.channel ++ [.write op] else q.channel := by
  rcases q.enqueue_cases op with ⟨yes, after⟩ | ⟨no, _, _, after, -⟩
  · rw [after, if_pos yes]
  · rw [after, no]
    rfl

theorem retries_enqueue : (q.enqueue op).2.retries = q.retries := by
  rcases q.enqueue_cases op with ⟨-, after⟩ | ⟨-, _, _, after, -⟩ <;> rw [after]

theorem dropped_enqueue :
    (q.enqueue op).2.dropped = if (q.enqueue op).1 = true then q.dropped else q.dropped + 1 := by
  rcases q.enqueue_cases op with ⟨yes, after⟩ | ⟨no, _, _, after, -⟩
  · rw [after, if_pos yes]
  · rw [after, no]
    rfl

theorem completed_enqueue : (q.enqueue op).2.completed = q.completed := by
  rcases q.enqueue_cases op with ⟨-, after⟩ | ⟨-, _, _, after, -⟩ <;> rw [after]

theorem pending_enqueue :
    (q.enqueue op).2.pending =
      if (q.enqueue op).1 = true then q.pending ++ [op] else q.pending := by
  rw [pending, retries_enqueue, channel_enqueue]
  split
  · simp [pending, Message.op?]
  · rfl

theorem settled_enqueue {q : WriteQueue} {op : WriteOp} (accepted : (q.enqueue op).1 = true)
    (s : SessionStore) (u : Uuid) :
    (q.enqueue op).2.settled s u =
      if op.uuid = u then op.onRecord (q.settled s u) else q.settled s u := by
  rw [settled, pending_enqueue, if_pos accepted, WriteOp.replay_append, WriteOp.replay_cons,
    WriteOp.replay_nil]
  rfl

theorem worked_of_pending {q q' : WriteQueue} (b : Backend) (pending : q'.pending = q.pending)
    (dropped : q'.dropped = q.dropped) : Worked q b q' b ∧ Settles q b q' b := by
  refine ⟨⟨.refl b, by omega, pending ▸ .refl _, fun _ _ hs => hs⟩, ?_⟩
  intro P _ _ _ _ _ u
  rw [settled, settled, pending]

@[simp] theorem pending_beginFlush (t : Ticket) : (q.beginFlush t).pending = q.pending := by
  unfold beginFlush
  split <;> simp [pending, Message.op?]

@[simp] theorem dropped_beginFlush (t : Ticket) : (q.beginFlush t).dropped = q.dropped := by
  unfold beginFlush
  split <;> rfl

@[simp] theorem pending_sendBarrier : q.sendBarrier.pending = q.pending := by
  unfold sendBarrier
  split <;> simp [pending, Message.op?]

@[simp] theorem dropped_sendBarrier : q.sendBarrier.dropped = q.dropped := by
  unfold sendBarrier
  split <;> rfl

end WriteQueue

end SessionGateway
