import SessionGateway.Proofs.Persistence.Traffic

/-! The depth of the queue. It counts the messages in the channel and the barriers that are on their
way, and a disabled queue has some, so the queue is enabled again once the worker has taken them
all. -/

namespace SessionGateway

namespace WriteQueue

/-- The depth counts every message that is there or on its way, and `called` more flushes that have
not asked for room. -/
structure Metered (q : WriteQueue) (called : Nat) : Prop where
  depth : q.depth = q.pendingMessages + called
  disabled : q.disabled = true → 0 < q.depth
  opened : q.disabled = true → q.attached = true
  capacity : 0 < q.capacity

section steps

variable {q q' : WriteQueue} {called : Nat}

theorem SameIntake.metered (same : q.SameIntake q') (h : q.Metered called) :
    q'.Metered called := by
  have messages : q'.pendingMessages = q.pendingMessages := by
    rw [pendingMessages, pendingMessages, same.channel, same.granted, same.waiting]
  exact ⟨by rw [same.depth, messages, h.depth], by rw [same.disabled, same.depth]; exact h.disabled,
    by rw [same.disabled, same.attached]; exact h.opened, by rw [same.capacity]; exact h.capacity⟩

theorem Metered.pos_of_full (h : q.Metered called) (full : ¬ q.hasRoom = true) : 0 < q.depth := by
  have crowd : q.capacity ≤ q.channel.length + q.granted.length := by simpa [hasRoom] using full
  have depth := h.depth
  have capacity := h.capacity
  rw [pendingMessages] at depth
  omega

theorem Metered.enqueue (h : q.Metered called) (op : WriteOp) :
    (q.enqueue op).2.Metered called := by
  rcases q.enqueue_cases op with ⟨-, after⟩ | ⟨-, disabled, _, after, disables⟩
  · rw [after]
    refine ⟨?_, fun _ => Nat.succ_pos _, h.opened, h.capacity⟩
    have depth := h.depth
    simp only [pendingMessages, List.length_append, List.length_cons, List.length_nil] at depth ⊢
    omega
  · rw [after]
    refine ⟨h.depth, fun now => ?_, fun now => ?_, h.capacity⟩
    · rcases disables now with before | ⟨-, full⟩
      · exact h.disabled before
      · exact h.pos_of_full full
    · rcases disables now with before | ⟨opened, -⟩
      · exact h.opened before
      · exact opened

theorem Metered.countFlush (h : q.Metered called) : q.countFlush.Metered (called + 1) := by
  refine ⟨?_, fun _ => Nat.succ_pos _, h.opened, h.capacity⟩
  change q.depth + 1 = q.pendingMessages + (called + 1)
  rw [h.depth, Nat.add_assoc]

theorem Metered.askRoom (h : q.Metered (called + 1)) (t : Ticket) :
    (q.askRoom t).Metered called := by
  have depth := h.depth
  by_cases opened : q.attached = true
  · rw [askRoom_of_attached opened]
    split
    · refine ⟨?_, h.disabled, h.opened, h.capacity⟩
      simp only [pendingMessages, List.length_append, List.length_cons, List.length_nil] at depth ⊢
      omega
    · refine ⟨?_, h.disabled, h.opened, h.capacity⟩
      simp only [pendingMessages, List.length_append, List.length_cons, List.length_nil] at depth ⊢
      omega
  · have enabled : ¬ q.disabled = true := fun disabled => opened (h.opened disabled)
    rw [WriteQueue.askRoom, if_pos (by simpa using opened)]
    refine ⟨?_, fun disabled => absurd disabled enabled, h.opened, h.capacity⟩
    change q.depth - 1 = q.pendingMessages + called
    omega

theorem Metered.send (h : q.Metered called) (t : Ticket) : (q.send t).Metered called := by
  unfold WriteQueue.send
  split
  · next member =>
    have granted := List.length_erase_of_mem member
    have some : 0 < q.granted.length := List.length_pos_of_mem member
    refine ⟨?_, h.disabled, h.opened, h.capacity⟩
    have depth := h.depth
    simp only [pendingMessages, List.length_append, List.length_cons, List.length_nil] at depth ⊢
    omega
  · exact h

theorem Metered.taken (h : q.Metered called) {m : Message} {rest : List Message}
    (first : q.channel = m :: rest) : (q.taken rest).Metered called := by
  have depth := h.depth
  have messages : (q.taken rest).pendingMessages + 1 = q.pendingMessages := by
    unfold WriteQueue.taken grantRoom
    split
    · simp only [pendingMessages, countTaken, first, List.length_cons]
      omega
    · next t others waiting =>
      have length : q.waiting.length = others.length + 1 := congrArg List.length waiting
      simp only [pendingMessages, countTaken, first, List.length_cons, List.length_append,
        List.length_nil]
      omega
  obtain ⟨depth', disabled', attached', capacity'⟩ := q.intake_taken rest
  refine ⟨by omega, fun disabled => ?_, fun disabled => ?_, by rw [capacity']; exact h.capacity⟩
  · simp only [disabled', Bool.and_eq_true, bne_iff_ne] at disabled
    omega
  · simp only [disabled', Bool.and_eq_true] at disabled
    rw [attached']
    exact h.opened disabled.1

theorem Metered.work (h : q.Metered called) (b : Backend) : (q.work b).1.Metered called := by
  cases first : q.channel with
  | nil => rw [work_of_nil first]; exact h
  | cons m rest =>
    rw [work_of_cons first]
    exact (sameIntake_handle _ b m).metered (h.taken first)

end steps

end WriteQueue

namespace Traffic

variable {l : Traffic}

def Metered (l : Traffic) : Prop :=
  l.queue.Metered l.called.length

theorem Metered.start (capacity : Nat) (attached : Bool) : (start capacity attached).Metered := by
  refine ⟨rfl, nofun, nofun, ?_⟩
  change 0 < max capacity 1
  omega

theorem Metered.after (h : l.Metered) (step : TrafficStep) : (l.after step).Metered := by
  cases step with
  | enqueue op => exact WriteQueue.Metered.enqueue h op
  | flush =>
    have counted := WriteQueue.Metered.countFlush h
    rw [Metered]
    simpa [Traffic.after] using counted
  | ask t =>
    rw [Traffic.after]
    split
    · next member =>
      have length := List.length_erase_of_mem member
      have some : 0 < l.called.length := List.length_pos_of_mem member
      have asking : l.queue.Metered ((l.called.erase t).length + 1) := by
        rw [length, Nat.sub_add_cancel some]
        exact h
      exact asking.askRoom t
    · exact h
  | send t => exact WriteQueue.Metered.send h t
  | work b => exact WriteQueue.Metered.work h b
  | retry b => exact (l.queue.sameIntake_retry b).metered h

theorem length_unsent (l : Traffic) :
    l.queue.channel.length + l.unsent.length = l.queue.pendingMessages + l.called.length := by
  simp only [unsent, WriteQueue.pendingMessages, List.length_append]
  omega

/-- The depth is the number of messages in the channel and of barriers that flushes have still to
send, and it is positive while the queue is disabled. So when no message is left to take, the queue
is enabled, and a record is accepted if the channel is open. -/
theorem depth_counts_messages (capacity : Nat) (attached : Bool) (steps : List TrafficStep) :
    let l := (start capacity attached).run steps
    let h := l.queue.health
    h.queueDepth = l.queue.channel.length + l.unsent.length ∧
    (h.enabled = false → 1 ≤ h.queueDepth) ∧
    (l.queue.channel = [] → l.unsent = [] →
      h.enabled = true ∧ ∀ r, (l.queue.enqueue (.put r)).1 = attached) := by
  intro l h
  have metered : l.Metered := run_induction (.start capacity attached) (fun _ s h => h.after s) steps
  have same : l.queue.attached = attached :=
    run_induction (P := fun l => l.queue.attached = attached) rfl
      (fun l s same => (l.attached_after s).trans same) steps
  have depth : l.queue.depth = l.queue.channel.length + l.unsent.length := by
    rw [length_unsent, metered.depth]
  refine ⟨depth, fun disabled => ?_, fun empty none => ?_⟩
  · exact metered.disabled (by simpa [h, WriteQueue.health] using disabled)
  · have none_left : l.queue.depth = 0 := by rw [depth, empty, none]; rfl
    have enabled : l.queue.disabled = false := by
      cases disabled : l.queue.disabled with
      | false => rfl
      | true =>
        have some := metered.disabled disabled
        omega
    have room : l.queue.hasRoom = true := by
      have granted : l.queue.granted = [] := by
        simp only [unsent, List.append_eq_nil_iff] at none
        exact none.2
      simpa [WriteQueue.hasRoom, empty, granted] using metered.capacity
    refine ⟨by simp [h, WriteQueue.health, enabled], fun r => ?_⟩
    rw [Bool.eq_iff_iff, WriteQueue.enqueue_accepted, same]
    simp [room, enabled]

theorem depth_counts_messages_after_saturation :
    let r : SessionRecord := ⟨.zero, "", .epoch, .epoch, .epoch, [], false⟩
    let filled : List TrafficStep := [.enqueue (.put r), .enqueue (.put r), .flush, .ask 0]
    let full := (start 1 true).run filled
    let l := (start 1 true).run (filled ++ [.work {}, .send 0, .work {}])
    full.queue.health.enabled = false ∧ full.queue.channel.length = 1 ∧ full.unsent = [0] ∧
      full.queue.health.queueDepth = 2 ∧
      l.queue.channel = [] ∧ l.unsent = [] ∧ l.queue.health.enabled = true ∧
      (l.queue.enqueue (.put r)).1 = true := by
  intro r filled full l
  have empty : l.queue.channel = [] := by decide +kernel
  have none : l.unsent = [] := by decide +kernel
  obtain ⟨depth, -⟩ := depth_counts_messages 1 true filled
  obtain ⟨-, -, free⟩ := depth_counts_messages 1 true (filled ++ [.work {}, .send 0, .work {}])
  obtain ⟨enabled, accepted⟩ := free empty none
  exact ⟨by decide, by decide, by decide, depth, empty, none, enabled, accepted r⟩

end Traffic

end SessionGateway
