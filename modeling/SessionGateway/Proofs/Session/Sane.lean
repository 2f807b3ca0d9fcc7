import SessionGateway.Proofs.Session.Run

/-! What needs nothing of the times and of who does what: sessions and records lie under their own
identifiers, and whatever is cached or queued can be written. Every move keeps it, so every call
does. -/

namespace SessionGateway

open WriteOp

/-- What a manager has can be written and lies under its own identifier. -/
structure SessionManager.Sane (m : SessionManager) : Prop where
  cached : ∀ u x, m.cache.get? u = some x → x.uuid = u ∧ x.toRecord.Fits
  pending : ∀ op ∈ m.writes.queue.pending, op.Carries fun _ => True

theorem SessionManager.Sane.ofSettings (settings : SessionSettings) :
    (SessionManager.ofSettings settings).Sane := by
  refine ⟨fun v x cached => ?_, fun op member => ?_⟩
  · simp [SessionManager.ofSettings, SessionCache.get?] at cached
  · simp [SessionManager.ofSettings, WriteQueue.ofCapacity, WriteQueue.pending] at member

theorem SessionManager.invalidation_carries {m : SessionManager} {u : Uuid}
    (fits : ∀ x, m.cache.get? u = some x → x.toRecord.Fits) :
    (m.invalidation u (m.cache.get? u)).Carries fun _ => True := by
  rcases m.invalidation_cases u with asked | asked | ⟨x, cached, asked⟩
  · rw [asked]
    trivial
  · rw [asked]
    trivial
  · have fits := fits x cached
    rw [asked]
    exact ⟨⟨fits.user, fits.credential⟩, trivial⟩

namespace Stage

structure Sane (s : Stage) : Prop where
  manager : s.manager.Sane
  stored : s.backend.store.Holds fun _ => True

namespace Sane

variable {o : Origin} {s s' : Stage} {c : Call}

theorem act (h : s.Sane) {c : SessionCache} {op : WriteOp} {v : Uuid} {d : Deed}
    (cached : ∀ w x, c.get? w = some x → x.uuid = w ∧ x.toRecord.Fits)
    (carries : op.Carries fun _ => True) : (s.act c op v d).Sane := by
  refine ⟨⟨cached, fun op' member => ?_⟩, h.stored⟩
  rcases mem_pending_act member with old | rfl
  · exact h.manager.pending op' old
  · exact carries

theorem move (h : s.Sane) (m : Move o s s') : s'.Sane := by
  have cached := h.manager.cached
  cases m with
  | tick _ => exact ⟨h.manager, h.stored⟩
  | read _ same => exact ⟨h.manager, same ▸ h.stored⟩
  | worker worked _ =>
    refine ⟨⟨cached, fun op member => h.manager.pending op (worked.pending.subset member)⟩, ?_⟩
    refine worked.store (SessionStore.Holds _) (fun op member store hs => ?_) h.stored
    exact holds_effect hs (h.manager.pending op member) fun _ _ => trivial
  | issue _ _ _ fits => exact h.act (SessionCache.forall_insert cached ⟨rfl, fits⟩) ⟨fits, trivial⟩
  | load _ _ stored _ _ _ _ fits =>
    have record := (SessionStore.fits_of_get stored).1
    exact ⟨⟨SessionCache.forall_insert cached ⟨rfl, fits, record.credential⟩, h.manager.pending⟩,
      h.stored⟩
  | access found _ touched =>
    obtain ⟨e, -, rfl⟩ := Session.touch_eq_ok touched
    obtain ⟨-, fits⟩ := cached _ _ found
    exact h.act (SessionCache.forall_insert cached ⟨rfl, fits.1, fits.2⟩)
      ⟨⟨fits.1, fits.2⟩, trivial⟩
  | @revoke v free =>
    have key : ∀ x, s.cache.get? v = some x → x.uuid = v := fun x found => (cached v x found).1
    refine h.act (SessionCache.forall_bury key cached (fun x ⟨key, fits⟩ => ?_) _) ?_
    · exact ⟨key, fits.1, fits.2⟩
    · exact SessionManager.invalidation_carries fun x found => (cached v x found).2
  | revokeAgain _ => exact ⟨h.manager, h.stored⟩
  | sweep swept =>
    exact ⟨⟨fun v x left => cached v x (swept.live v x left), h.manager.pending⟩, h.stored⟩

theorem moves (h : s.Sane) (legal : c.Legal o s.history) :
    Moves { o with settings := s.manager.settings } { s with clock := c.time?.getD s.clock }
      (s.after c) :=
  moves_perform (s := { s with clock := c.time?.getD s.clock }) rfl h.stored c
    (fun _ time => Call.time_eq_of_mem time s.clock) (legal.withSettings _)

theorem after (h : s.Sane) (legal : c.Legal o s.history) : (s.after c).Sane :=
  (h.moves legal).keep (fun _ _ sane move => sane.move move) ⟨h.manager, h.stored⟩

end Sane

end Stage

end SessionGateway
