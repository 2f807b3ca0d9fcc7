import SessionGateway.Proofs.Session.Throughout

/-! Whether a sweep comes to its end. It adds the grace to every expiry in the cache and the age of
a tombstone to every revocation; a sum that leaves the calendar ends it. Sessions are only dated
where their own lifetime fits, which leaves no room for what the sweep adds: close to the end of the
calendar it fails. It never does if the calls leave room for a lifetime and the grace. -/

namespace SessionGateway

/-- The calendar goes on that long. -/
def Instant.HasRoom (t : Instant) (d : Span) : Prop :=
  ∃ e, t.add? d = some e

theorem Instant.add?_add {t e : Instant} {m : Nat} (pos : 0 < m)
    (h : t.add? (.ofSeconds m) = some e) (n : Nat) :
    e.add? (.ofSeconds n) = t.add? (.ofSeconds (m + n)) := by
  cases n with
  | zero => simpa [add?_zero] using h.symm
  | succ n =>
    have sum := add?_of_pos t (n := m + (n + 1)) (by omega)
    rw [add?_of_pos t pos] at h
    obtain ⟨total, -⟩ := ofNanos?_eq_some h
    rw [add?_of_pos e n.succ_pos, total, ← Int.natCast_add, sum]
    congr 1
    omega

/-- What a sweep adds to the end of a record stays within the calendar; nothing is added if the
record is flagged. -/
def SessionRecord.Sweepable (r : SessionRecord) (grace : Span) : Prop :=
  r.invalidated = false → r.expiresAt.HasRoom grace

namespace SessionCache

/-- All sums of a sweep stay within the calendar. -/
structure Sweepable (c : SessionCache) (grace age : Span) : Prop where
  live : ∀ u x, c.get? u = some x → x.toRecord.Sweepable grace
  revoked : ∀ (u : Uuid) t, c.revoked[u]? = some t → t.HasRoom age

theorem checkAll_iff {α : Type} {check : α → Except Crash Bool} {xs : List α} :
    checkAll check xs = .ok () ↔ ∀ x ∈ xs, ∃ b, check x = .ok b := by
  induction xs with
  | nil => simp [checkAll]
  | cons x xs ih =>
    rw [checkAll, List.forall_mem_cons, ← ih]
    cases check x with
    | error crash => simp [Except.bind]
    | ok b => simp [Except.bind]

theorem lasts_iff (t : Instant) (d : Span) (now : Instant) :
    (∃ b, lasts t d now = .ok b) ↔ t.HasRoom d := by
  unfold lasts laterBy Instant.HasRoom
  cases t.add? d with
  | none => simp [Except.map]
  | some e => simp [Except.map]

theorem staysLive_iff (x : Session) (grace : Span) (now : Instant) :
    (∃ b, staysLive x grace now = .ok b) ↔ x.toRecord.Sweepable grace := by
  unfold staysLive SessionRecord.Sweepable
  change _ ↔ (x.invalidated = false → x.expiresAt.HasRoom grace)
  cases x.invalidated with
  | true => simp
  | false => simpa using lasts_iff x.expiresAt grace now

theorem checkAll_live (c : SessionCache) (grace : Span) (now : Instant) :
    checkAll (fun (_, x) => staysLive x grace now) c.live.toList = .ok () ↔
      ∀ u x, c.get? u = some x → x.toRecord.Sweepable grace := by
  simp only [checkAll_iff, Prod.forall, Std.ExtTreeMap.mem_toList_iff_getElem?_eq_some,
    staysLive_iff, get?]

theorem checkAll_revoked (c : SessionCache) (age : Span) (now : Instant) :
    checkAll (fun (_, t) => lasts t age now) c.revoked.toList = .ok () ↔
      ∀ (u : Uuid) t, c.revoked[u]? = some t → t.HasRoom age := by
  simp only [checkAll_iff, Prod.forall, Std.ExtTreeMap.mem_toList_iff_getElem?_eq_some, lasts_iff]

theorem sweep_completes (c : SessionCache) (now : Instant) (grace age : Span)
    (reached : Uuid → Bool) :
    (∃ report, (c.sweep now grace age reached).1 = .ok report) ↔ c.Sweepable grace age := by
  have live := c.checkAll_live grace now
  have revoked := c.checkAll_revoked age now
  unfold sweep
  constructor
  · rintro ⟨report, done⟩
    split at done
    · cases done
    · next checked =>
      dsimp only at done
      split at done
      · cases done
      · next checked' => exact ⟨live.mp checked, revoked.mp checked'⟩
  · intro fits
    rw [live.mpr fits.live]
    dsimp only
    rw [revoked.mpr fits.revoked]
    exact ⟨_, rfl⟩

end SessionCache

/-- The call comes early enough for the span to follow, and what it writes has a written length. -/
def Call.LeavesRoom (d : Span) : Call → Prop
  | .create ctx _ p c =>
    ctx.now.HasRoom d ∧ p.user.utf8ByteSize < 2 ^ 64 ∧ c.length < 2 ^ 64
  | .resolve ctx _ => ctx.now.HasRoom d ∧
    ∀ name p, ctx.principals name = some p → p.user.utf8ByteSize < 2 ^ 64
  | .logout ctx _ => ctx.now.HasRoom d
  | .invalidate now _ => now.HasRoom d
  | .invalidateUser now _ => now.HasRoom d
  | _ => True

namespace SessionSettings

variable {settings : SessionSettings}

def age (settings : SessionSettings) : Span :=
  settings.ttl + settings.grace

theorem hasRoom_expiry {now e : Instant} (early : now.HasRoom settings.age)
    (granted : Session.expiry now settings.ttl = .ok e) : e.HasRoom settings.grace := by
  obtain ⟨m, pos, ttl, sum⟩ := exists_of_expiry granted
  obtain ⟨n, grace⟩ := exists_boundedSeconds settings.sweepGraceSecs
  obtain ⟨limit, room⟩ := early
  rw [age, ttl, SessionSettings.grace, grace, Span.ofSeconds_add] at room
  refine ⟨limit, ?_⟩
  rw [SessionSettings.grace, grace, Instant.add?_add pos sum, room]

theorem lasting_sweepable : SessionRecord.Lasting (·.Sweepable settings.grace) where
  flagged _ _ := nofun
  written r legible fit unflagged := by
    change r.expiresAt.asWritten.HasRoom settings.grace
    rw [legible.asWritten]
    exact fit unflagged

theorem passes_sweepable {ctx : SessionContext} (early : ctx.now.HasRoom settings.age)
    (sized : ∀ name p, ctx.principals name = some p → p.user.utf8ByteSize < 2 ^ 64) :
    ctx.Passes settings.ttl (·.Sweepable settings.grace) :=
  ⟨fun r p _ fit known => ⟨sized r.user p known, fit⟩,
    fun _ _ _ granted _ => hasRoom_expiry early granted⟩

theorem provides_sweepable {m : SessionManager} (same : m.settings = settings) {c : Call}
    (early : c.LeavesRoom settings.age) :
    m.Provides (·.Sweepable settings.grace) (·.HasRoom settings.age) c := by
  subst same
  cases c with
  | create ctx u p k =>
    exact ⟨early.2.1, early.2.2, fun e granted _ => hasRoom_expiry early.1 granted⟩
  | resolve ctx token => exact passes_sweepable early.1 early.2
  | _ => exact early

end SessionSettings

namespace Stage

variable {settings : SessionSettings}

theorem settings_afterAll (s : Stage) (cs : List Call) :
    (s.afterAll cs).manager.settings = s.manager.settings := by
  induction cs generalizing s with
  | nil => rfl
  | cons c cs ih => exact (ih (s.after c)).trans (s.settings_after c)

theorem sweepable_afterAll {s : Stage} (same : s.manager.settings = settings)
    (h : s.manager.Throughout (·.Sweepable settings.grace) (·.HasRoom settings.age) s.backend)
    {cs : List Call} (early : ∀ c ∈ cs, c.LeavesRoom settings.age) :
    (s.afterAll cs).cache.Sweepable settings.grace settings.age := by
  induction cs generalizing s with
  | nil => exact ⟨fun u x cached => (h.live u x cached).2.2.2, h.revoked⟩
  | cons c cs ih =>
    obtain ⟨first, rest⟩ := List.forall_mem_cons.mp early
    have new := SessionSettings.provides_sweepable same first
    exact ih ((s.settings_after c).trans same) (h.perform SessionSettings.lasting_sweepable new) rest

/-- Whatever was called, a sweep comes to its end if and only if each unflagged session in the cache
and each tombstone leaves room for what it adds; otherwise it crashes. Calls that all come early
enough for a lifetime and the grace leave that room, if the records that were stored at first do. -/
theorem sweep_completes_iff (settings : SessionSettings) (b : Backend) (start : Instant)
    (cs : List Call) (now : Instant) (reached : Uuid → Bool) :
    let s := afterAll ⟨.ofSettings settings, b, start, []⟩ cs
    ((∃ report, (s.manager.sweep now reached).1 = .ok report) ↔
      s.cache.Sweepable settings.grace settings.age) ∧
    (b.store.Reads (·.Sweepable settings.grace) → (∀ c ∈ cs, c.LeavesRoom settings.age) →
      ∃ report, (s.manager.sweep now reached).1 = .ok report) := by
  intro s
  have same : s.manager.settings = settings := settings_afterAll _ cs
  have completes : (∃ report, (s.manager.sweep now reached).1 = .ok report) ↔
      s.cache.Sweepable settings.grace settings.age := by
    rw [← s.cache.sweep_completes now settings.grace settings.age reached, ← same]
    rfl
  refine ⟨completes, fun stored early => completes.mpr ?_⟩
  exact sweepable_afterAll (s := ⟨.ofSettings settings, b, start, []⟩) rfl
    (.ofSettings settings stored) early

theorem sweep_at_end_of_calendar :
    let ctx (now : Instant) : SessionContext :=
      ⟨⟨fun _ => .ok "", fun _ => .ok ⟨.zero, "", 0, 0⟩, .ofSeconds 1⟩, fun _ => none, now⟩
    let create (now : Instant) : Call := .create (ctx now) .zero default []
    let s : Stage := ⟨.ofSettings {}, {}, .epoch, []⟩
    let late : Instant := ⟨8210266855199, 999999999, by decide, by decide⟩
    (∃ issued, (s.manager.create (ctx late) .zero default []).1 = .ok issued ∧
      issued.session.expiresAt = .latest) ∧
    (∀ now report, ((s.afterAll [create late]).manager.sweep now).1 ≠ .ok report) ∧
    ∃ report, ((s.afterAll [create .epoch]).manager.sweep .latest).1 = .ok report := by
  intro ctx create s late
  let x : Session := ⟨.zero, default, late, late, .latest, [], false⟩
  refine ⟨⟨⟨x, ""⟩, ?_, rfl⟩, fun now report done => ?_, ?_⟩
  · have granted : Session.expiry late s.manager.settings.ttl = .ok .latest :=
      Session.expiry_eq_ok.mpr ⟨by decide, by decide +kernel⟩
    rw [SessionManager.create, Session.start, granted]
    rfl
  · have fits := (sweep_completes_iff {} {} .epoch [create late] now _).1.mp ⟨report, done⟩
    obtain ⟨e, sum⟩ := fits.live .zero x (by decide +kernel) rfl
    have none : Instant.latest.add? s.manager.settings.grace = none := by decide +kernel
    cases sum.symm.trans none
  · refine (sweep_completes_iff {} {} .epoch [create .epoch] .latest _).2 ?_ fun c member => ?_
    · exact SessionStore.reads_empty
    · obtain rfl : c = create .epoch := by simpa using member
      exact ⟨⟨⟨21900, 0, by decide, by decide⟩, by decide +kernel⟩, by decide, by decide⟩

end Stage

end SessionGateway
