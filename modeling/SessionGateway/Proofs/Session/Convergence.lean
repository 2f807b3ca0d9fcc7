import SessionGateway.Proofs.Session.Run

/-! The store catches up with the table. As long as no write is lost, what a read will answer once
the pending writes are done is what the table says, as it is written, through every move; so when
none is pending the store is the table. -/

namespace SessionGateway

/-- What is stored of a session after it was revoked. -/
def Retention.kept : Retention → SessionStore.Answer → SessionStore.Answer
  | .hardDelete, _ => .ok none
  | .softInvalidate, x => x.map (Option.map SessionRecord.flagged)

theorem Retention.kept_flagged (retention : Retention) (x : SessionStore.Answer) :
    retention.kept (x.map (Option.map SessionRecord.flagged)) = retention.kept x := by
  cases retention with
  | hardDelete => rfl
  | softInvalidate =>
    cases x with
    | error e => rfl
    | ok y => cases y <;> rfl

/-- The record of a session in the table, as it is written. -/
def Origin.written (o : Origin) (u : Uuid) (past : Past) : SessionStore.Answer :=
  (o.record u past).map (Option.map SessionRecord.asWritten)

/-- The store is to show this of a session. -/
structure Origin.Shows (o : Origin) (u : Uuid) (past : Past) (x : SessionStore.Answer) : Prop where
  unrevoked : ¬ past.Revoked → x = o.written u past
  revoked : past.Revoked → x = o.settings.retention.kept (o.written u past)

theorem Session.Mirrors.toRecord {o : Origin} {past : Past} {l : SessionRecord} {x : Session}
    (h : x.Mirrors o past l) (faithful : o.Faithful) :
    x.toRecord = { l with invalidated := x.invalidated } := by
  rw [h.record, h.faithful faithful]

namespace Stage

/-- Unless a write was lost, what the store will show is right. -/
def Settled (o : Origin) (s : Stage) : Prop :=
  s.queue.dropped = 0 → ∀ u, o.Shows u (s.history.of u) (s.queue.settled s.backend.store u)

variable {o : Origin} {s : Stage}

theorem Settled.start (m : SessionManager) (started : SessionManager.start o.settings = .ok m) :
    Settled o ⟨m, o.backend, o.clock, []⟩ := by
  obtain rfl := SessionManager.start_eq_ok started
  exact fun _ u => ⟨fun _ => (SessionStore.map_asWritten_get _ u).symm,
    fun revoked => absurd revoked Past.not_revoked_nil⟩

theorem settled_act {c : SessionCache} {op : WriteOp} {u : Uuid} {d : Deed}
    (kept : (s.act c op u d).queue.dropped = 0) (v : Uuid) :
    s.queue.dropped = 0 ∧ (s.act c op u d).queue.settled (s.act c op u d).backend.store v =
      if op.uuid = v then op.onRecord (s.queue.settled s.backend.store v)
      else s.queue.settled s.backend.store v := by
  change (s.queue.enqueue op).2.dropped = 0 at kept
  rw [WriteQueue.dropped_enqueue] at kept
  split at kept
  · next accepted => exact ⟨kept, WriteQueue.settled_enqueue accepted _ v⟩
  · cases kept

theorem Settled.act (h : Settled o s) {c : SessionCache} {op : WriteOp} {u : Uuid} {d : Deed}
    (mine : op.uuid = u)
    (shows : o.Shows u (s.history.of u) (s.queue.settled s.backend.store u) →
      o.Shows u ((s.clock, d) :: s.history.of u)
        (op.onRecord (s.queue.settled s.backend.store u))) : Settled o (s.act c op u d) := by
  intro kept v
  obtain ⟨before, after⟩ := settled_act kept v
  rw [after, mine]
  by_cases same : u = v
  · subst same
    rw [if_pos rfl, Stage.act, note, History.of_cons_self]
    exact shows (h before u)
  · rw [if_neg same, Stage.act, note, History.of_cons_of_ne same]
    exact h before v

theorem shows_put (faithful : o.Faithful) {u : Uuid} {e : Entry} {t : Instant}
    (follows : e.Follows o t u) {x : Session} (cached : e.live = some x)
    (flagged : e.past.Revoked → o.settings.retention = .softInvalidate) :
    o.Shows u e.past (.ok (some x.toRecord.asWritten)) := by
  obtain ⟨l, hl, -, mirrors⟩ := follows.live x cached
  rw [mirrors.toRecord faithful]
  refine ⟨fun unrevoked => ?_, fun revoked => ?_⟩
  · rw [Origin.written, hl, mirrors.unrevoked_iff.mpr unrevoked, ← mirrors.unflagged]
    rfl
  · rw [Origin.written, hl, mirrors.flagged.mpr revoked, flagged revoked]
    rfl

theorem Settled.revoke (h : Settled o s) (coherent : Coherent o s) (faithful : o.Faithful)
    {u : Uuid} : Settled o (s.act (s.cache.bury u s.clock)
      (s.manager.invalidation u (s.cache.get? u)) u .revoked) := by
  have again : Past.Revoked ((s.clock, .revoked) :: s.history.of u) := Past.revoked_cons_revoked
  cases retention : o.settings.retention with
  | hardDelete =>
    have write : s.manager.invalidation u (s.cache.get? u) = .delete u := by
      cases s.cache.get? u <;>
        simp only [SessionManager.invalidation, coherent.settings, retention]
    rw [write]
    refine h.act rfl fun _ => ⟨fun unrevoked => absurd again unrevoked, fun _ => ?_⟩
    rw [retention]
    rfl
  | softInvalidate =>
    cases cached : s.cache.get? u with
    | none =>
      have write : s.manager.invalidation u none = .flag u := by
        rw [SessionManager.invalidation, coherent.settings, retention]
      rw [write]
      refine h.act rfl fun before => ⟨fun unrevoked => absurd again unrevoked, fun _ => ?_⟩
      rw [retention, Origin.written, Origin.record_cons_revoked]
      by_cases revoked : (s.history.of u).Revoked
      · rw [before.revoked revoked, retention]
        exact Retention.kept_flagged .softInvalidate _
      · rw [before.unrevoked revoked]
        rfl
    | some x =>
      have write : s.manager.invalidation u (some x) = .put x.invalidate.toRecord := by
        rw [SessionManager.invalidation, coherent.settings, retention]
      have follows := (coherent.entries u).revoke
      rw [write]
      have key := coherent.key cached
      refine h.act key fun _ => ?_
      refine shows_put faithful follows (x := x.invalidate) ?_ fun _ => retention
      rw [entry, cached]
      rfl

theorem Settled.move (honest : o.backend.Honest) (faithful : o.Faithful) (coherent : Coherent o s)
    (h : Settled o s) {s' : Stage} (m : Move o s s') : Settled o s' := by
  cases m with
  | tick _ => exact h
  | read _ same =>
    intro kept u
    change o.Shows u _ (s.queue.settled _ u)
    rw [same]
    exact h kept u
  | @worker q b worked settles =>
    intro kept u
    change q.dropped = 0 at kept
    have before : s.queue.dropped = 0 := Nat.le_zero.mp (kept ▸ worked.dropped)
    have same := settles _ (fun r known => known.flagged) (coherent.later.honest honest)
      coherent.stored coherent.pending (kept.trans before.symm) u
    change o.Shows u _ (q.settled b.store u)
    exact same ▸ h before u
  | @issue u p c x fresh unused started fits =>
    have mine : x.uuid = u := by
      obtain ⟨e, -, rfl⟩ := Session.start_eq_ok started
      rfl
    have follows := (coherent.entries u).issue fresh started fits
    refine h.act mine fun _ => shows_put faithful follows rfl fun revoked => ?_
    simp [entry, fresh] at revoked
  | load _ _ _ _ _ _ _ _ => exact h
  | @access u x x' cached unflagged touched =>
    have mine : x'.uuid = u := by
      have before := coherent.key cached
      obtain ⟨e, -, rfl⟩ := Session.touch_eq_ok touched
      exact before
    have follows := (coherent.entries u).access cached unflagged touched
    obtain ⟨l, -, -, mirrors⟩ := (coherent.entries u).live x cached
    refine h.act mine fun _ => shows_put faithful follows rfl fun revoked => ?_
    exact absurd (Past.revoked_cons_accessed.mp revoked) (mirrors.unrevoked_iff.mp unflagged)
  | revoke _ => exact h.revoke coherent faithful
  | @revokeAgain u a set =>
    intro kept v
    have before := h kept v
    by_cases same : u = v
    · subst same
      rw [note, History.of_cons_self]
      have revoked := ((coherent.entries u).tombstone a set).1
      exact ⟨fun unrevoked => absurd Past.revoked_cons_revoked unrevoked,
        fun _ => before.revoked revoked⟩
    · rw [note, History.of_cons_of_ne same]
      exact before
  | sweep _ => exact h

end Stage

/-- When nothing is left to be written and no write was lost, the store is the table: it has the
record of each session after its latest use, which is also what is cached, and of a revoked session
nothing or that record with its flag, each as it is written. Writes that failed on the way and were
tried again leave no trace. -/
theorem Run.store_eq_table {o : Origin} (sound : o.Sound) (faithful : o.Faithful)
    (honest : o.backend.Honest) {s : Stage} (run : Run o s) (channel : s.queue.channel = [])
    (retries : s.queue.retries = []) (dropped : s.queue.dropped = 0) (u : Uuid) :
    (¬ (s.history.of u).Revoked →
      s.backend.store.get u = o.written u (s.history.of u) ∧
      ∀ x, s.cache.get? u = some x → s.backend.store.get u = .ok (some x.toRecord.asWritten)) ∧
    ((s.history.of u).Revoked →
      s.backend.store.get u = o.settings.retention.kept (o.written u (s.history.of u))) := by
  obtain ⟨coherent, settled⟩ := run.invariant sound (fun m => Stage.Settled.start m)
    fun s s' coherent settled move => settled.move honest faithful coherent move
  have shows := settled dropped u
  have done : s.queue.settled s.backend.store u = s.backend.store.get u := by
    simp [WriteQueue.settled, WriteQueue.pending, channel, retries]
  rw [done] at shows
  refine ⟨fun unrevoked => ⟨shows.unrevoked unrevoked, fun x cached => ?_⟩, shows.revoked⟩
  have cached_shows := Stage.shows_put faithful (coherent.entries u) cached fun revoked =>
    absurd revoked unrevoked
  rw [shows.unrevoked unrevoked, cached_shows.unrevoked unrevoked]
  rfl

theorem Run.store_flagged_after_retry :
    let o : Origin :=
      { settings := { retention := .softInvalidate }
        clock := .epoch
        backend := { faults := fun call n =>
          if call = .put ∧ n = 0 then some (.error (.unavailable "")) else none }
        sources := fun source => source = fun _ => none }
    let ctx : SessionContext :=
      ⟨⟨fun _ => .ok "", fun _ => .ok ⟨.zero, "", 0, 0⟩, .ofSeconds 1⟩, fun _ => none, .epoch⟩
    let s := ((((Stage.after ⟨.ofSettings o.settings, o.backend, o.clock, []⟩
      (.create ctx .zero default [])).after (.invalidate .epoch .zero)).after .work).after
      .work).after .retry
    s.queue.dropped = 0 ∧
      s.backend.store.get .zero =
        Retention.softInvalidate.kept (o.written .zero (s.history.of .zero)) := by
  intro o ctx s
  have now : ∀ t ∈ some ctx.now, Instant.epoch.Advances t := by
    rintro t ⟨⟩
    exact .refl _
  have idle {c : Instant} : ∀ t ∈ (none : Option Instant), c.Advances t := by
    rintro t ⟨⟩
  have start : Run o ⟨.ofSettings o.settings, o.backend, o.clock, []⟩ := .start rfl
  have created := start.call (.create ctx .zero default []) now ⟨rfl, rfl, by decide, by decide⟩
  have revoked := created.call (.invalidate .epoch .zero) now trivial
  have run : Run o s :=
    ((revoked.call .work idle trivial).call .work idle trivial).call .retry idle trivial
  have sound : o.Sound := SessionStore.holds_empty
  have faithful : o.Faithful := by
    rintro source rfl name p found
    cases found
  have honest : o.backend.Honest := by
    rintro e ⟨c, n, -, -, slip⟩
    cases slip
  have channel : s.queue.channel = [] := by decide +kernel
  have retries : s.queue.retries = [] := by decide +kernel
  have dropped : s.queue.dropped = 0 := by decide +kernel
  obtain ⟨-, kept⟩ := run.store_eq_table sound faithful honest channel retries dropped .zero
  exact ⟨dropped, kept ⟨.epoch, History.mem_of.mpr List.mem_cons_self⟩⟩

/-- If the clock goes into a leap second, a record is queued behind the deletion. And whether it
does or not, a time that is not legible is read from the store as another. -/
theorem Run.store_of_revoked_in_leap_second :
    let resolved := LeapSecond.swept.after (.resolve (LeapSecond.context LeapSecond.late) "")
    let s := (resolved.after .work).after .work
    let time : Instant := ⟨4102444830, 1500000000, by decide, by decide⟩
    let t := (Stage.after ⟨.ofSettings {}, {}, time, []⟩
      (.create (LeapSecond.context time) .zero default [])).after .work
    (LeapSecond.opening ≤ LeapSecond.inside ∧ LeapSecond.inside ≤ LeapSecond.late ∧
      (resolved.history.of .zero).Revoked ∧
      s.queue.channel = [] ∧ s.queue.retries = [] ∧ s.queue.dropped = 0 ∧
      (s.backend.store.get .zero).toOption.join.map (·.invalidated) = some false) ∧
    t.queue.channel = [] ∧ t.queue.retries = [] ∧ t.queue.dropped = 0 ∧
      (t.cache.get? .zero).map (·.createdAt) = some time ∧
      (t.backend.store.get .zero).toOption.join.map (·.createdAt) =
        some ⟨4102444831, 500000000, by decide, by decide⟩ := by
  intro resolved s time t
  have revoked : (LeapSecond.swept.history.of .zero).Revoked :=
    ⟨LeapSecond.inside, History.mem_of.mpr List.mem_cons_self⟩
  refine ⟨⟨by decide, by decide, History.revoked_append _ revoked, ?_⟩, ?_⟩ <;> decide +kernel

end SessionGateway
