import SessionGateway.Proofs.Persistence.Enqueue

/-! Runs of the queue and its worker on their own, with books: what was offered, what the worker
took and what it tried. Writes are accepted, tried and over with in one order for each session, and
each that was offered is found in one place. -/

namespace SessionGateway

open WriteOp Attempt

/-- A step of a writer, of a flush or of the worker. Each step of the worker meets a store of its
own, so every outcome of every attempt occurs. -/
inductive QueueStep where
  | enqueue (op : WriteOp)
  | flush (ticket : Ticket)
  | sendBarrier
  | work (b : Backend)
  | retry (b : Backend)

/-- A queue and its books, the earliest entries first: the writes that were offered and whether they
were accepted, what the worker took from the channel, and its attempts. -/
structure Ledger where
  queue : WriteQueue
  calls : List (WriteOp × Bool) := []
  received : List Message := []
  attempts : List Attempt := []

namespace WriteQueue

def waitingWrites (q : WriteQueue) : List WriteOp :=
  q.channel.filterMap Message.op?

theorem pending_eq (q : WriteQueue) : q.pending = q.retries.map (·.op) ++ q.waitingWrites := rfl

variable (q : WriteQueue)

/-- Two queues with the same writes; their flushes may have come to different points. -/
structure SameWrites (q q' : WriteQueue) : Prop where
  retries : q'.retries = q.retries
  waiting : q'.waitingWrites = q.waitingWrites
  completed : q'.completed = q.completed
  dropped : q'.dropped = q.dropped

theorem sameWrites_beginFlush (t : Ticket) : q.SameWrites (q.beginFlush t) := by
  unfold beginFlush
  split
  · exact ⟨rfl, by simp [waitingWrites, Message.op?], rfl, rfl⟩
  · exact ⟨rfl, rfl, rfl, rfl⟩

theorem sameWrites_sendBarrier : q.SameWrites q.sendBarrier := by
  unfold sendBarrier
  split
  · exact ⟨rfl, rfl, rfl, rfl⟩
  · exact ⟨rfl, by simp [waitingWrites, Message.op?], rfl, rfl⟩

end WriteQueue

namespace Ledger

def start (capacity : Nat) (attached : Bool) : Ledger where
  queue := { WriteQueue.ofCapacity capacity with attached }

def after (l : Ledger) : QueueStep → Ledger
  | .enqueue op =>
    let r := l.queue.enqueue op
    { l with queue := r.2, calls := l.calls ++ [(op, r.1)] }
  | .flush t => if l.queue.attached then { l with queue := l.queue.beginFlush t } else l
  | .sendBarrier => { l with queue := l.queue.sendBarrier }
  | .work b =>
    { l with
      queue := (l.queue.work b).1
      received := l.received ++ l.queue.channel.take 1
      attempts := l.attempts ++ l.queue.workAttempts b }
  | .retry b =>
    { l with
      queue := (l.queue.retry b).1
      attempts := l.attempts ++ l.queue.retryAttempts b }

def run (l : Ledger) (steps : List QueueStep) : Ledger :=
  steps.foldl after l

def accepted (l : Ledger) : List WriteOp :=
  (l.calls.filter (·.2)).map (·.1)

def refused (l : Ledger) : List WriteOp :=
  (l.calls.filter (!·.2)).map (·.1)

theorem length_calls (l : Ledger) : l.calls.length = l.accepted.length + l.refused.length := by
  have both := List.length_eq_countP_add_countP (·.2) (l := l.calls)
  simpa [accepted, refused, List.countP_eq_length_filter] using both

structure Balanced (l : Ledger) : Prop where
  order : ∀ u, ofSession u l.accepted = ofSession u (closed l.attempts) ++ ofSession u l.queue.pending
  tried : ∀ before a after, l.attempts = before ++ a :: after →
    ∃ later, ofSession a.op.uuid l.accepted = ofSession a.op.uuid (closed before) ++ a.op :: later
  length : l.accepted.length = (closed l.attempts).length + l.queue.pending.length
  channel : l.accepted = l.received.filterMap Message.op? ++ l.queue.waitingWrites
  completed : l.queue.completed = (applied l.attempts).length
  dropped : l.queue.dropped = l.refused.length + (lost l.attempts).length

namespace Balanced

variable {l : Ledger}

theorem start (capacity : Nat) (attached : Bool) : (Ledger.start capacity attached).Balanced := by
  refine ⟨fun _ => rfl, fun before a after empty => ?_, rfl, rfl, rfl, rfl⟩
  simp [Ledger.start] at empty

theorem enqueue (h : l.Balanced) (op : WriteOp) : (l.after (.enqueue op)).Balanced := by
  -- What is new in the channel is what is new among the accepted writes.
  let new := if (l.queue.enqueue op).1 = true then [op] else []
  have accepted : (l.after (.enqueue op)).accepted = l.accepted ++ new := by
    cases yes : (l.queue.enqueue op).1 <;> simp [after, Ledger.accepted, yes, new]
  have refused : (l.after (.enqueue op)).refused.length + new.length = l.refused.length + 1 := by
    cases yes : (l.queue.enqueue op).1 <;> simp [after, Ledger.refused, yes, new]
  have waiting : (l.queue.enqueue op).2.waitingWrites = l.queue.waitingWrites ++ new := by
    rw [WriteQueue.waitingWrites, l.queue.channel_enqueue]
    cases yes : (l.queue.enqueue op).1 <;>
      simp [WriteQueue.waitingWrites, Message.op?, yes, new]
  have pending : (l.queue.enqueue op).2.pending = l.queue.pending ++ new := by
    rw [WriteQueue.pending_eq, l.queue.retries_enqueue, waiting, ← List.append_assoc]
    rfl
  have dropped := l.queue.dropped_enqueue op
  refine ⟨fun u => ?_, fun before a after split => ?_, ?_, ?_, ?_, ?_⟩
  · change _ = ofSession u (closed l.attempts) ++ ofSession u (l.queue.enqueue op).2.pending
    rw [accepted, pending, ofSession_append, ofSession_append, h.order, List.append_assoc]
  · obtain ⟨later, same⟩ := h.tried before a after split
    exact ⟨later ++ ofSession a.op.uuid new, by rw [accepted, ofSession_append, same]; simp⟩
  · change _ = (closed l.attempts).length + (l.queue.enqueue op).2.pending.length
    rw [accepted, pending, List.length_append, List.length_append, h.length, Nat.add_assoc]
  · change _ = l.received.filterMap Message.op? ++ (l.queue.enqueue op).2.waitingWrites
    rw [accepted, waiting, h.channel, List.append_assoc]
  · exact (l.queue.completed_enqueue op).trans h.completed
  · change (l.queue.enqueue op).2.dropped = _ + (lost l.attempts).length
    have before := h.dropped
    cases yes : (l.queue.enqueue op).1 <;> simp [yes, new] at dropped refused <;> omega

theorem barriers (h : l.Balanced) {q : WriteQueue} (same : l.queue.SameWrites q) :
    Balanced { l with queue := q } := by
  have pending : q.pending = l.queue.pending := by
    rw [WriteQueue.pending_eq, same.retries, same.waiting]
    rfl
  exact ⟨fun u => pending ▸ h.order u, h.tried, pending ▸ h.length, same.waiting ▸ h.channel,
    same.completed.trans h.completed, same.dropped.trans h.dropped⟩

theorem worked (h : l.Balanced) {q : WriteQueue} {b b' : Backend} {as : List Attempt}
    (taken : List Message) (trials : Trials l.queue.pending b as q.pending b')
    (tally : l.queue.Tally as q)
    (channel : l.queue.waitingWrites = taken.filterMap Message.op? ++ q.waitingWrites) :
    Balanced { l with queue := q, received := l.received ++ taken, attempts := l.attempts ++ as } := by
  refine ⟨fun u => ?_, fun before a after split => ?_, ?_, ?_, ?_, ?_⟩
  · change ofSession u l.accepted = ofSession u (closed (l.attempts ++ as)) ++ ofSession u q.pending
    rw [h.order, trials.ofSession_eq, closed_append, ofSession_append, List.append_assoc]
  · change ∃ later, ofSession a.op.uuid l.accepted = _
    rcases append_eq_append_cons split with ⟨mid, old, -⟩ | ⟨mid, rfl, rfl⟩
    · exact h.tried before a mid old
    · obtain ⟨later, same⟩ := trials.next
      exact ⟨later, by rw [h.order, same, closed_append, ofSession_append, List.append_assoc]⟩
  · change l.accepted.length = (closed (l.attempts ++ as)).length + q.pending.length
    rw [h.length, trials.length_eq, closed_append, List.length_append, Nat.add_assoc]
  · change l.accepted = (l.received ++ taken).filterMap Message.op? ++ q.waitingWrites
    rw [h.channel, channel, List.filterMap_append, List.append_assoc]
  · change q.completed = (applied (l.attempts ++ as)).length
    rw [tally.completed, h.completed, applied_append, List.length_append]
  · change q.dropped = l.refused.length + (lost (l.attempts ++ as)).length
    rw [tally.dropped, h.dropped, lost_append, List.length_append, Nat.add_assoc]

theorem after (h : l.Balanced) (step : QueueStep) : (l.after step).Balanced := by
  cases step with
  | enqueue op => exact h.enqueue op
  | flush t =>
    by_cases open_ : l.queue.attached = true
    · rw [Ledger.after, if_pos open_]
      exact h.barriers (l.queue.sameWrites_beginFlush t)
    · rw [Ledger.after, if_neg open_]
      exact h
  | sendBarrier => exact h.barriers l.queue.sameWrites_sendBarrier
  | work b =>
    obtain ⟨trials, tally⟩ := l.queue.trials_work b
    refine h.worked _ trials tally ?_
    rw [WriteQueue.waitingWrites, WriteQueue.waitingWrites, ← List.filterMap_append,
      ← l.queue.channel_work b]
  | retry b =>
    obtain ⟨trials, tally⟩ := l.queue.trials_retry b
    have same : l.queue.waitingWrites = (l.queue.retry b).1.waitingWrites := by
      rw [WriteQueue.waitingWrites, WriteQueue.waitingWrites, l.queue.channel_retry b]
    have worked := h.worked [] trials tally same
    rw [List.append_nil] at worked
    exact worked

theorem run (h : l.Balanced) (steps : List QueueStep) : (l.run steps).Balanced := by
  induction steps generalizing l with
  | nil => exact h
  | cons step steps ih => exact ih (h.after step)

end Balanced

/-- The writes of a session take effect in the order in which they were accepted. Those that are
over with come first among the accepted ones and the pending ones are the others, so every attempt
is at the oldest that is not over with, and none is tried again once it took effect. -/
theorem writes_in_order (capacity : Nat) (attached : Bool) (steps : List QueueStep) (u : Uuid) :
    let l := (start capacity attached).run steps
    (ofSession u (applied l.attempts)).Sublist (ofSession u l.accepted) ∧
    ofSession u l.queue.pending = (ofSession u l.accepted).drop (place u l.attempts) ∧
    ∀ before a after, l.attempts = before ++ a :: after → a.op.uuid = u →
      (ofSession u l.accepted)[place u before]? = some a.op ∧
      (a.succeeded = true → ∀ between a' rest, after = between ++ a' :: rest → a'.op.uuid = u →
        place u before < place u (before ++ a :: between)) := by
  intro l
  have books : l.Balanced := (Balanced.start capacity attached).run steps
  have order := books.order u
  refine ⟨?_, ?_, ?_⟩
  · have sub := (applied_sublist_closed l.attempts).filter (·.uuid = u)
    rw [order]
    exact sub.trans (List.sublist_append_left _ _)
  · rw [order, place, List.drop_left]
  · rintro before a after split rfl
    obtain ⟨later, same⟩ := books.tried before a after split
    refine ⟨?_, fun done between a' rest _ _ => ?_⟩
    · rw [same, place, List.getElem?_append_right (Nat.le_refl _), Nat.sub_self]
      rfl
    · rw [place_append]
      have := place_pos between done
      omega

theorem writes_in_order_after_failure :
    let r : SessionRecord := ⟨.zero, "", .epoch, .epoch, .epoch, [], false⟩
    let error : StorageError := .unavailable ""
    let failing : Backend := { faults := fun _ _ => some (.error error) }
    let l := (start 4 true).run
      [.enqueue (.put r), .enqueue (.delete .zero), .work failing, .work failing, .retry {}]
    let failed : Attempt := ⟨⟨.put r, 0⟩, .failed (.error error)⟩
    let again : Attempt := ⟨⟨.put r, 1⟩, .done ()⟩
    let deleted : Attempt := ⟨⟨.delete .zero, 0⟩, .done ()⟩
    l.attempts = [failed, again, deleted] ∧
      (ofSession .zero l.accepted)[place .zero [failed]]? = some (.put r) ∧
      place .zero [failed] < place .zero [failed, again] := by
  intro r error failing l failed again deleted
  have attempts : l.attempts = [failed] ++ again :: [deleted] := rfl
  obtain ⟨-, -, order⟩ := writes_in_order 4 true
    [.enqueue (.put r), .enqueue (.delete .zero), .work failing, .work failing, .retry {}] .zero
  obtain ⟨number, once⟩ := order [failed] again [deleted] attempts rfl
  exact ⟨attempts, number, once rfl [] deleted [] rfl rfl⟩

/-- Every write that was offered is done, refused or given up, waits to be tried again, or waits in
the channel; and the accepted ones are those that entered the channel. -/
theorem writes_accounted (capacity : Nat) (attached : Bool) (steps : List QueueStep) :
    let l := (start capacity attached).run steps
    let h := l.queue.health
    l.calls.length = h.completedWrites + h.droppedWrites + h.pendingRetries +
      l.queue.waitingWrites.length ∧
    l.accepted = l.received.filterMap Message.op? ++ l.queue.waitingWrites := by
  intro l h
  have books : l.Balanced := (Balanced.start capacity attached).run steps
  refine ⟨?_, books.channel⟩
  have calls := l.length_calls
  have closed := length_closed l.attempts
  have pending : l.queue.pending.length =
      l.queue.retries.length + l.queue.waitingWrites.length := by
    rw [WriteQueue.pending_eq, List.length_append, List.length_map]
  have accepted := books.length
  have completed := books.completed
  have dropped := books.dropped
  change _ = l.queue.completed + l.queue.dropped + l.queue.retries.length + _
  omega

end Ledger

end SessionGateway
