import SessionGateway.Proofs.Session.Reload
import SessionGateway.Proofs.Session.Run

/-! An invalidation that is repeated. The tombstone that the first one set is what the second one
finds, and no call takes it away except a sweep. A sweep does so once the tombstone is older than
the lifetime and the grace together; after that the session is invalidated anew. Nothing is assumed
of the store, of the times of the calls or of who calls. -/

namespace SessionGateway

/-- What every call on a manager keeps, except that a sweep may take tombstones away. -/
structure SessionManager.Keeps (m m' : SessionManager) : Prop where
  settings : m'.settings = m.settings
  keyed : m.cache.Keyed → m'.cache.Keyed
  tombstones : ∀ (u : Uuid) a, m.cache.revoked[u]? = some a → m'.cache.revoked[u]? = some a

namespace SessionManager

variable {m m' m'' : SessionManager}

namespace Keeps

theorem refl (m : SessionManager) : Keeps m m :=
  ⟨rfl, id, fun _ _ set => set⟩

theorem trans (h : Keeps m m') (h' : Keeps m' m'') : Keeps m m'' :=
  ⟨h'.settings.trans h.settings, fun keyed => h'.keyed (h.keyed keyed),
    fun u a set => h'.tombstones u a (h.tombstones u a set)⟩

theorem insert (m : SessionManager) (x : Session) :
    Keeps m { m with cache := m.cache.insert x } :=
  ⟨rfl, fun keyed => SessionCache.forall_insert keyed rfl, fun _ _ set => set⟩

theorem offer (h : Keeps m m') (op : WriteOp) : Keeps m (m'.offer op) :=
  ⟨h.settings, h.keyed, h.tombstones⟩

theorem bury {u : Uuid} (free : m.cache.isRevoked u = false) (t : Instant) :
    Keeps m { m with cache := m.cache.bury u t } := by
  refine ⟨rfl, fun keyed => ?_, fun v a set => ?_⟩
  · exact SessionCache.forall_bury (keyed u) keyed (fun _ mine => mine) t
  · exact SessionCache.revoked_bury_of_free ((m.cache.isRevoked_eq_false u).mp free) set t

end Keeps

variable (m) (ctx : SessionContext) (b : Backend)

theorem keeps_create (u : Uuid) (p : Principal) (c : List UInt8) :
    Keeps m (m.create ctx u p c).2 := by
  rcases m.create_cases ctx u p c with ⟨e, refused⟩ | ⟨x, token, -, issued⟩
  · rw [refused]
    exact .refl m
  · rw [issued]
    exact (Keeps.insert m x).offer _

theorem keeps_insertLoaded (x : Session) :
    Keeps m { m with cache := (m.cache.insertLoaded x).2 } := by
  unfold SessionCache.insertLoaded
  split
  · exact .refl m
  · split
    · exact .refl m
    · exact .insert m x

theorem keeps_find (u : Uuid) : Keeps m (m.find ctx b u).2.1 := by
  unfold find
  cases m.cache.get? u with
  | some x => exact .refl m
  | none =>
    dsimp only
    cases loaded ctx u (b.get u).1 with
    | error e => exact .refl m
    | ok x =>
      have loaded := m.keeps_insertLoaded x
      match insertion : m.cache.insertLoaded x with
      | (.refused, c) | (.present _, c) | (.added, c) =>
        rw [insertion] at loaded
        simp only [insertion]
        exact loaded

theorem keeps_answer (claims : Claims) (x : Session) : Keeps m (m.answer ctx b claims x).2.1 := by
  unfold answer
  split
  · exact .refl m
  · next y _ => exact (Keeps.insert m y).offer _

theorem keeps_resolve (token : String) : Keeps m (m.resolve ctx b token).2.1 := by
  cases valid : ctx.issuer.validate token with
  | error e =>
    rw [resolve, valid]
    exact .refl m
  | ok claims =>
    cases revoked : m.cache.isRevoked claims.sid with
    | true =>
      rw [resolve_of_revoked valid revoked]
      exact .refl m
    | false =>
      have loaded := m.keeps_find ctx b claims.sid
      rcases search : m.find ctx b claims.sid with ⟨e | x, m', b'⟩
      · rw [resolve_of_missed valid revoked search]
        rwa [search] at loaded
      · rw [resolve_of_found valid revoked search]
        rw [search] at loaded
        exact loaded.trans (m'.keeps_answer ctx b' claims x)

theorem keeps_invalidate (now : Instant) (u : Uuid) : Keeps m (m.invalidate now u).2 := by
  cases revoked : m.cache.isRevoked u with
  | true =>
    rw [invalidate_of_revoked revoked]
    exact .refl m
  | false =>
    rw [invalidate_of_free revoked]
    exact (Keeps.bury revoked now).offer _

theorem keeps_invalidateAll (now : Instant) (us : List Uuid) :
    Keeps m (m.invalidateAll now us).2 := by
  induction us generalizing m with
  | nil => exact .refl m
  | cons u us ih => exact (m.keeps_invalidate now u).trans (ih _)

theorem keeps_logout (token : String) : Keeps m (m.logout ctx token).2 := by
  unfold logout
  split
  · exact .refl m
  · exact m.keeps_invalidate ctx.now _

theorem keeps_invalidateUser (now : Instant) (user : String) :
    Keeps m (m.invalidateUser now b user).2.1 := by
  rcases m.invalidateUser_cases now b user with ⟨_, _, failed⟩ | ⟨_, done⟩
  · rw [failed]
    exact .refl m
  · rw [done]
    exact m.keeps_invalidateAll now _

end SessionManager

namespace Stage

variable {s : Stage}

def afterAll (s : Stage) (cs : List Call) : Stage :=
  cs.foldl after s

theorem keeps_after (s : Stage) {c : Call} (kept : ∀ t reached, c ≠ .sweep t reached) :
    s.manager.Keeps (s.after c).manager := by
  cases c with
  | create ctx u p k =>
    have created := s.manager.keeps_create ctx u p k
    simp only [after, perform, Call.perform]
    split <;> next answer => rwa [answer] at created
  | resolve ctx token =>
    have resolved := s.manager.keeps_resolve ctx s.backend token
    simp only [after, perform, Call.perform]
    split <;> next answer => rwa [answer] at resolved
  | logout ctx token =>
    have loggedOut := s.manager.keeps_logout ctx token
    simp only [after, perform, Call.perform]
    split <;> next answer => rwa [answer] at loggedOut
  | invalidate t u => exact s.manager.keeps_invalidate t u
  | invalidateUser t user =>
    have invalidated := s.manager.keeps_invalidateUser s.backend t user
    simp only [after, perform, Call.perform]
    split <;> next answer => rwa [answer] at invalidated
  | sweep t reached => exact absurd rfl (kept t reached)
  | work => exact ⟨rfl, id, fun _ _ set => set⟩
  | retry => exact ⟨rfl, id, fun _ _ set => set⟩
  | flush t => exact ⟨rfl, id, fun _ _ set => set⟩
  | sendBarrier => exact ⟨rfl, id, fun _ _ set => set⟩

theorem settings_after (s : Stage) (c : Call) :
    (s.after c).manager.settings = s.manager.settings := by
  obtain ⟨t, reached, rfl⟩ | kept := c.sweep_or
  · rfl
  · exact (s.keeps_after kept).settings

theorem keyed_after (keyed : s.cache.Keyed) (c : Call) : (s.after c).cache.Keyed := by
  obtain ⟨t, reached, rfl⟩ | kept := c.sweep_or
  · intro u x left
    have swept := SessionCache.swept t s.manager.settings.grace
      (s.manager.settings.ttl + s.manager.settings.grace) s.cache reached
    exact keyed u x (swept.live u x left)
  · exact (s.keeps_after kept).keyed keyed

theorem tombstone_after {u : Uuid} {a : Instant} (set : s.cache.revoked[u]? = some a) (c : Call) :
    (s.after c).cache.revoked[u]? = some a ∨ (s.after c).cache.revoked[u]? = none ∧
      ∃ t reached e, c = .sweep t reached ∧
        a.add? (s.manager.settings.ttl + s.manager.settings.grace) = some e ∧ e < t := by
  obtain ⟨t, reached, rfl⟩ | kept := c.sweep_or
  · have swept := SessionCache.swept t s.manager.settings.grace
      (s.manager.settings.ttl + s.manager.settings.grace) s.cache reached
    cases left : (s.after (.sweep t reached)).cache.revoked[u]? with
    | some a' =>
      refine .inl ?_
      rw [← set, swept.revoked u a' left]
    | none =>
      obtain ⟨⟨e, sum, ended⟩, -⟩ := swept.forgotten u a set left
      exact .inr ⟨rfl, t, reached, e, rfl, sum, ended⟩
  · exact .inl ((s.keeps_after kept).tombstones u a set)

/-- One of the calls was a sweep that took away the tombstone set at `a`, which had outlived its
age. -/
def Forgotten (s : Stage) (u : Uuid) (a : Instant) (cs : List Call) : Prop :=
  ∃ before t reached after e, cs = before ++ .sweep t reached :: after ∧
    a.add? (s.manager.settings.ttl + s.manager.settings.grace) = some e ∧ e < t ∧
    (s.afterAll before).cache.revoked[u]? = some a ∧
    ((s.afterAll before).after (.sweep t reached)).cache.revoked[u]? = none

theorem tombstone_afterAll {u : Uuid} {a : Instant} (set : s.cache.revoked[u]? = some a)
    (cs : List Call) : (s.afterAll cs).cache.revoked[u]? = some a ∨ s.Forgotten u a cs := by
  induction cs generalizing s with
  | nil => exact .inl set
  | cons c cs ih =>
    rcases tombstone_after set c with kept | ⟨gone, t, reached, e, rfl, sum, ended⟩
    · refine (ih kept).imp_right ?_
      rintro ⟨before, t, reached, after, e, rfl, sum, ended, held, gone⟩
      rw [settings_after] at sum
      exact ⟨c :: before, t, reached, after, e, rfl, sum, ended, held, gone⟩
    · exact .inr ⟨[], t, reached, cs, e, rfl, sum, ended, set, gone⟩

/-- Once an invalidation has succeeded, every later one of the session answers that there was
nothing to do and changes nothing, unless a sweep has taken the tombstone away; a sweep does so only
when more time than the lifetime and the grace has passed since. -/
theorem invalidate_again {s : Stage} {t : Instant} {u : Uuid}
    (fresh : (s.manager.invalidate t u).1 = true) (cs : List Call) (now : Instant) :
    let first := s.after (.invalidate t u)
    let later := first.afterAll cs
    later.manager.invalidate now u = (false, later.manager) ∨ first.Forgotten u t cs := by
  intro first later
  have set : first.cache.revoked[u]? = some t := by
    change (s.manager.invalidate t u).2.cache.revoked[u]? = some t
    rw [SessionManager.invalidate_of_free (SessionManager.free_of_invalidate fresh)]
    exact (SessionCache.revoked_bury s.cache u t u).trans (if_pos rfl)
  refine (tombstone_afterAll set cs).imp_left fun kept => ?_
  exact SessionManager.invalidate_of_revoked ((later.cache.isRevoked_eq_true u).mpr ⟨t, kept⟩) now

theorem invalidate_again_at_end_of_age :
    let s : Stage := ⟨.ofSettings {}, {}, .epoch, []⟩
    let last : Instant := ⟨21900, 0, by decide, by decide⟩
    let later := (s.after (.invalidate .epoch .zero)).afterAll [.work, .sweep last]
    later.manager.invalidate last .zero = (false, later.manager) := by
  intro s last later
  have fresh : (s.manager.invalidate .epoch .zero).1 = true := by decide
  refine (invalidate_again fresh [.work, .sweep last] last).resolve_right ?_
  rintro ⟨before, t, reached, after, e, split, sum, ended, -, -⟩
  have swept : Call.sweep t reached ∈ [.work, .sweep last] := split ▸ List.mem_append_cons_self
  obtain ⟨rfl, -⟩ : t = last ∧ _ := by simpa using swept
  have sum' : Instant.epoch.add? (s.manager.settings.ttl + s.manager.settings.grace) =
    some last := by decide
  obtain rfl : last = e := Option.some.inj (sum'.symm.trans sum)
  exact absurd ended (by decide)

/-- One second later the tombstone goes, although the session was stored, invalidated and deleted;
it is then invalidated anew and its deletion is queued once more. -/
theorem invalidated_anew_after_sweep :
    let ctx : SessionContext :=
      ⟨⟨fun _ => .ok "", fun _ => .ok ⟨.zero, "", 0, 0⟩, .ofSeconds 1⟩, fun _ => none, .epoch⟩
    let s := Stage.after ⟨.ofSettings {}, {}, .epoch, []⟩ (.create ctx .zero default [])
    let late : Instant := ⟨21901, 0, by decide, by decide⟩
    let later := (s.after (.invalidate .epoch .zero)).afterAll [.work, .work, .sweep late]
    Run default later ∧ (s.manager.invalidate .epoch .zero).1 = true ∧
      (later.manager.invalidate late .zero).1 = true ∧
      (later.manager.invalidate late .zero).2.writes.queue.channel =
        later.queue.channel ++ [.write (.delete .zero)] := by
  intro ctx s late later
  have now : ∀ t ∈ some ctx.now, Instant.epoch.Advances t := by
    rintro t ⟨⟩
    exact .refl _
  have forward : ∀ t ∈ some late, Instant.epoch.Advances t := by
    rintro t ⟨⟩
    exact .of_le (by decide) (by decide)
  have idle {c : Instant} : ∀ t ∈ (none : Option Instant), c.Advances t := by
    rintro t ⟨⟩
  have start : Run default ⟨.ofSettings {}, {}, .epoch, []⟩ := .start rfl
  have created := start.call (.create ctx .zero default []) now ⟨rfl, rfl, by decide, by decide⟩
  have revoked := created.call (.invalidate .epoch .zero) now trivial
  have stored := (revoked.call .work idle trivial).call .work idle trivial
  have swept : Run default later := stored.call (.sweep late) forward trivial
  exact ⟨swept, by decide +kernel, by decide +kernel, by decide +kernel⟩

end Stage

end SessionGateway
