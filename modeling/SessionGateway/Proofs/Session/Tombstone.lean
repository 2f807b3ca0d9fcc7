import SessionGateway.Proofs.Session.Quiet

/-! What a tombstone does. As long as a manager has one for a session it queues no write of it, so
the write of the invalidation that set the tombstone stays the last in line. -/

namespace SessionGateway

open WriteOp Attempt

/-- A manager with a tombstone of a session, which is cached with its flag at most. -/
structure SessionManager.Bars (u : Uuid) (m : SessionManager) : Prop where
  tombstone : m.cache.isRevoked u = true
  cached : ∀ x, m.cache.get? u = some x → x.invalidated = true

namespace Stage

variable {o : Origin} {s s' : Stage} {u : Uuid} {as : List Attempt} {line : List WriteOp} {c : Call}

/-- A session that a manager bars. Its writes stand in line: those that the attempts so far were the
last at, and then the pending ones. -/
structure Barred (u : Uuid) (as : List Attempt) (line : List WriteOp) (s : Stage) : Prop where
  bars : s.manager.Bars u
  named : s.history.of u ≠ []
  line : (ofSession u (closed as) ++ ofSession u s.queue.pending).Sublist line

theorem Barred.move (h : s.Barred u as line) (sane : s.Sane) (m : Move o s s')
    (kept : s'.cache.isRevoked u = true) : s'.Barred u as line := by
  have shut : s.Shut u := ⟨h.bars.cached, h.named, .inl h.bars.tombstone⟩
  obtain ⟨cached, named, new, sub, -, none⟩ := shut.move sane m
  rw [none h.bars.tombstone, List.append_nil] at sub
  exact ⟨⟨kept, cached⟩, named, (sub.append_left _).trans h.line⟩

theorem Barred.gentle (h : s.Barred u as line) (sane : s.Sane) (moves : GentleMoves o s s') :
    s'.Barred u as line := by
  refine (?_ : s'.Sane ∧ s'.Barred u as line).2
  induction moves with
  | refl => exact ⟨sane, h⟩
  | tail _ gentle ih =>
    obtain ⟨sane, h⟩ := ih
    obtain ⟨move, keeps⟩ := gentle
    obtain ⟨a, set⟩ := (SessionCache.isRevoked_eq_true _ u).mp h.bars.tombstone
    have kept := (SessionCache.isRevoked_eq_true _ u).mpr ⟨a, keeps u a set⟩
    exact ⟨sane.move move, h.move sane move kept⟩

theorem cache_after (made : c.attempts s.manager s.backend ≠ []) :
    (s.after c).cache = s.cache := by
  cases c with
  | work => rfl
  | retry => rfl
  | _ => exact absurd rfl made

theorem Barred.after (h : s.Barred u as line) (sane : s.Sane) (legal : c.Legal o s.history)
    (kept : (s.after c).cache.isRevoked u = true) :
    (s.after c).Barred u (as ++ c.attempts s.manager s.backend) line := by
  let s₀ := { s with clock := c.time?.getD s.clock }
  have barred : s₀.Barred u as line := ⟨h.bars, h.named, h.line⟩
  have sane₀ : s₀.Sane := ⟨sane.manager, sane.stored⟩
  have time : ∀ t ∈ c.time?, t = s₀.clock := fun t member => Call.time_eq_of_mem member s.clock
  by_cases made : c.attempts s.manager s.backend = []
  · rw [made, List.append_nil]
    obtain ⟨t, reached, rfl⟩ | other := c.sweep_or
    · have move := move_sweep (o := { o with settings := s.manager.settings }) (s := s₀) rfl
        (time t rfl) reached
      exact barred.move sane₀ move kept
    · have moves := gentle_perform (s := s₀) rfl sane.stored c other time (legal.withSettings _)
      exact barred.gentle sane₀ moves
  · have trials := s.trials_after c made
    refine ⟨⟨kept, ?_⟩, History.of_append_ne_nil _ h.named, ?_⟩
    · change ∀ x, (s.after c).cache.get? u = some x → _
      rw [cache_after made]
      exact h.bars.cached
    rw [closed_append, ofSession_append, List.append_assoc, ← trials.ofSession_eq]
    exact h.line

theorem Barred.last {ops : List WriteOp} {op : WriteOp} (h : s.Barred u as (ops ++ [op]))
    {before after : List Attempt} {a : Attempt}
    (tried : c.attempts s.manager s.backend = before ++ a :: after) (mine : a.op.uuid = u)
    (place : place u (as ++ before) = ops.length) :
    a.op = op ∧ ofSession u s.queue.pending = ofSession u (closed before) ++ [a.op] := by
  subst mine
  have made : c.attempts s.manager s.backend ≠ [] := by simp [tried]
  have trials := s.trials_after c made
  rw [tried] at trials
  obtain ⟨later, next⟩ := trials.next
  rw [place_append, Attempt.place, Attempt.place] at place
  have line := h.line
  rw [next] at line ⊢
  -- The writes before the attempt are as many as stand in line before the last one.
  have whole := line.eq_of_length_le (by simp; omega)
  rw [← List.append_assoc] at whole
  obtain ⟨-, rest⟩ := List.append_inj whole (by simp [place])
  obtain ⟨rfl, rfl⟩ := List.cons.inj rest
  exact ⟨rfl, rfl⟩

theorem Barred.quiet {ops : List WriteOp} {op : WriteOp} (h : s.Barred u as (ops ++ [op]))
    (sane : s.Sane) (ends : op.Ends u) {before after : List Attempt} {a : Attempt}
    (tried : c.attempts s.manager s.backend = before ++ a :: after) (mine : a.op.uuid = u)
    (place : place u (as ++ before) = ops.length) (done : a.succeeded = true) :
    (s.after c).Quiet u := by
  have made : c.attempts s.manager s.backend ≠ [] := by simp [tried]
  have trials := s.trials_after c made
  rw [tried] at trials
  obtain ⟨rfl, last⟩ := h.last tried mine place
  obtain ⟨ended, pending⟩ := trials.ended_of_succeeded (fun _ _ => trivial) sane.stored
    sane.manager.pending done ends last
  refine ⟨⟨?_, pending⟩, ended, History.of_append_ne_nil _ h.named⟩
  change ∀ x, (s.after c).cache.get? u = some x → _
  rw [cache_after made]
  exact h.bars.cached

theorem barred_invalidate (sane : s.Sane) {now : Instant}
    (fresh : (s.manager.invalidate now u).1 = true) :
    (s.after (.invalidate now u)).Barred u []
      (ofSession u s.queue.pending ++ [s.manager.invalidation u (s.cache.get? u)]) := by
  have free : s.cache.isRevoked u = false := SessionManager.free_of_invalidate fresh
  have key : ∀ x, s.cache.get? u = some x → x.uuid = u := fun x found =>
    (sane.manager.cached u x found).1
  have manager : (s.after (.invalidate now u)).manager =
      { s.manager with cache := s.cache.bury u now }.offer
        (s.manager.invalidation u (s.cache.get? u)) := by
    change (s.manager.invalidate now u).2 = _
    rw [SessionManager.invalidate_of_free free]
  refine ⟨⟨?_, fun x found => ?_⟩, ?_, ?_⟩
  · rw [manager]
    change (s.cache.bury u now).isRevoked u = true
    rw [SessionCache.isRevoked_eq_true, SessionCache.revoked_bury, if_pos rfl]
    exact ⟨now, rfl⟩
  · rw [manager] at found
    change (s.cache.bury u now).get? u = some x at found
    rw [SessionCache.get?_bury key, if_pos rfl] at found
    obtain ⟨y, -, rfl⟩ := Option.map_eq_some_iff.mp found
    rfl
  · change History.of (⟨u, _, .revoked⟩ :: s.history) u ≠ []
    rw [History.of_cons_self]
    exact List.cons_ne_nil _ _
  · have ends := SessionManager.invalidation_ends (m := s.manager) key
    change (_ ++ ofSession u (s.after (.invalidate now u)).manager.writes.queue.pending).Sublist _
    rw [manager, closed_nil, ofSession_nil, List.nil_append]
    change (ofSession u (s.queue.enqueue _).2.pending).Sublist _
    rw [WriteQueue.pending_enqueue]
    split
    · rw [ofSession_append, ofSession_cons, if_pos ends.uuid]
      exact .refl _
    · exact List.sublist_append_left _ _

end Stage

end SessionGateway
