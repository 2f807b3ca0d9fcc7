import SessionGateway.Proofs.Persistence.Carried
import SessionGateway.Proofs.Session.Repetition

/-! A property of every record that a manager can come across: of the cached sessions, of those on
their way to the store, and of those there; and one of the times of its tombstones. They stay as
long as what calls write has them. Nothing is assumed of the keys in the store, of the order of the
times or of who calls. -/

namespace SessionGateway

namespace SessionCache

theorem cached_of_present {c c' : SessionCache} {x y : Session}
    (h : c.insertLoaded x = (.present y, c')) : c.get? x.uuid = some y := by
  unfold insertLoaded at h
  split at h
  · cases h
  · split at h
    · next cached =>
      cases h
      exact cached
    · cases h

end SessionCache

/-- The property does not depend on the flag, and passes to what is written of a record that ends
outside of leap seconds. -/
structure SessionRecord.Lasting (P : SessionRecord → Prop) : Prop where
  flagged : ∀ r, P r → P r.flagged
  written : ∀ r, r.expiresAt.Legible → P r → P r.asWritten

structure SessionContext.Passes (ctx : SessionContext) (ttl : Span)
    (P : SessionRecord → Prop) : Prop where
  load : ∀ r p, r.Fits → P r → ctx.principals r.user = some p →
    p.user.utf8ByteSize < 2 ^ 64 ∧ P { r with user := p.user }
  touch : ∀ r e, P r → Session.expiry ctx.now ttl = .ok e →
    P { r with lastAccess := ctx.now, expiresAt := e }

namespace SessionManager

structure Throughout (P : SessionRecord → Prop) (Q : Instant → Prop) (m : SessionManager)
    (b : Backend) : Prop where
  live : ∀ u x, m.cache.get? u = some x →
    x.uuid = u ∧ x.toRecord.Fits ∧ x.expiresAt.Legible ∧ P x.toRecord
  revoked : ∀ (u : Uuid) t, m.cache.revoked[u]? = some t → Q t
  writes : m.writes.queue.Carries P b

namespace Throughout

variable {P : SessionRecord → Prop} {Q : Instant → Prop} {m : SessionManager} {b b' : Backend}

theorem ofSettings (settings : SessionSettings) (stored : b.store.Reads P) :
    Throughout P Q (ofSettings settings) b := by
  refine ⟨fun u x cached => ?_, fun u t set => ?_, fun op member => ?_, stored⟩
  · simp [SessionManager.ofSettings, SessionCache.get?] at cached
  · simp [SessionManager.ofSettings] at set
  · exact absurd member (List.not_mem_nil (a := op))

theorem read (h : m.Throughout P Q b) (same : b'.store = b.store) : m.Throughout P Q b' :=
  ⟨h.live, h.revoked, h.writes.read same⟩

theorem insert (h : m.Throughout P Q b) {x : Session} (fits : x.toRecord.Fits)
    (legible : x.expiresAt.Legible) (hx : P x.toRecord) :
    Throughout P Q { m with cache := m.cache.insert x } b :=
  ⟨SessionCache.forall_insert h.live ⟨rfl, fits, legible, hx⟩, h.revoked, h.writes⟩

theorem offer (h : m.Throughout P Q b) {op : WriteOp} (carries : op.Carries P) :
    (m.offer op).Throughout P Q b :=
  ⟨h.live, h.revoked, h.writes.enqueue carries⟩

theorem create (h : m.Throughout P Q b) (lasting : SessionRecord.Lasting P) (ctx : SessionContext)
    {u : Uuid} {p : Principal} {c : List UInt8} (user : p.user.utf8ByteSize < 2 ^ 64) (credential : c.length < 2 ^ 64)
    (new : ∀ e, Session.expiry ctx.now m.settings.ttl = .ok e →
      P ⟨u, p.user, ctx.now, ctx.now, e, c, false⟩) :
    (m.create ctx u p c).2.Throughout P Q b := by
  rcases m.create_cases ctx u p c with ⟨e, refused⟩ | ⟨x, token, started, issued⟩
  · rw [refused]
    exact h
  · rw [issued]
    rw [Session.start] at started
    cases granted : Session.expiry ctx.now m.settings.ttl with
    | error e =>
      rw [granted] at started
      cases started
    | ok e =>
      rw [granted] at started
      cases started
      let x : Session := ⟨u, p, ctx.now, ctx.now, e, c, false⟩
      have fits : x.toRecord.Fits := ⟨user, credential⟩
      have legible : x.expiresAt.Legible := SessionSettings.legible_of_expiry granted
      have written := lasting.written x.toRecord legible (new e granted)
      exact (h.insert fits legible (new e granted)).offer ⟨fits, written⟩

theorem insertLoaded (h : m.Throughout P Q b) {x : Session} (fits : x.toRecord.Fits)
    (legible : x.expiresAt.Legible) (hx : P x.toRecord) :
    Throughout P Q { m with cache := (m.cache.insertLoaded x).2 } b := by
  unfold SessionCache.insertLoaded
  split
  · exact h
  · split
    · exact h
    · exact h.insert fits legible hx

theorem sweep (h : m.Throughout P Q b) (now : Instant) (reached : Uuid → Bool) :
    (m.sweep now reached).2.Throughout P Q b := by
  have swept := SessionCache.swept now m.settings.grace (m.settings.ttl + m.settings.grace) m.cache
    reached
  exact ⟨fun u x left => h.live u x (swept.live u x left),
    fun u t left => h.revoked u t (swept.revoked u t left), h.writes⟩

section resolve

variable (h : m.Throughout P Q b) {ctx : SessionContext} (passes : ctx.Passes m.settings.ttl P)

include h passes

theorem find (u : Uuid) : (m.find ctx b u).2.1.Throughout P Q (m.find ctx b u).2.2 ∧
    ∀ x, (m.find ctx b u).1 = .ok x →
      x.toRecord.Fits ∧ x.expiresAt.Legible ∧ P x.toRecord := by
  unfold SessionManager.find
  cases cached : m.cache.get? u with
  | some x =>
    refine ⟨h, ?_⟩
    rintro _ ⟨⟩
    exact (h.live u x cached).2
  | none =>
    have read := h.read (b.store_get u)
    dsimp only
    cases answer : loaded ctx u (b.get u).1 with
    | error e =>
      refine ⟨read, ?_⟩
      rintro _ ⟨⟩
    | ok x =>
      obtain ⟨r, p, reply, known, rfl, -, -⟩ := loaded_eq_ok answer
      obtain ⟨fits, legible⟩ := SessionStore.fits_of_get (Backend.get_done reply)
      have hr := h.writes.stored.get (Backend.get_done reply)
      obtain ⟨user, hx⟩ := passes.load r p fits hr known
      have fits : (Session.ofRecord r p).toRecord.Fits := ⟨user, fits.credential⟩
      have loaded := read.insertLoaded fits legible.expiresAt hx
      match insertion : m.cache.insertLoaded (.ofRecord r p) with
      | (.refused, c) =>
        rw [insertion] at loaded
        simp only [insertion]
        refine ⟨loaded, ?_⟩
        rintro _ ⟨⟩
      | (.present y, c) =>
        rw [insertion] at loaded
        simp only [insertion]
        refine ⟨loaded, ?_⟩
        rintro _ ⟨⟩
        exact (h.live _ y (SessionCache.cached_of_present insertion)).2
      | (.added, c) =>
        rw [insertion] at loaded
        simp only [insertion]
        refine ⟨loaded, ?_⟩
        rintro _ ⟨⟩
        exact ⟨fits, legible.expiresAt, hx⟩

theorem answer (lasting : SessionRecord.Lasting P) (claims : Claims) {x : Session}
    (fits : x.toRecord.Fits) (hx : P x.toRecord) :
    (m.answer ctx b claims x).2.1.Throughout P Q (m.answer ctx b claims x).2.2 := by
  unfold SessionManager.answer
  split
  · exact h
  · next y access =>
    obtain ⟨-, -, -, touched⟩ := accessed_eq_ok.mp access
    rw [Session.touch] at touched
    cases granted : Session.expiry ctx.now m.settings.ttl with
    | error e =>
      rw [granted] at touched
      cases touched
    | ok e =>
      rw [granted] at touched
      cases touched
      let y : Session := { x with lastAccess := ctx.now, expiresAt := e }
      have fits : y.toRecord.Fits := ⟨fits.user, fits.credential⟩
      have legible : y.expiresAt.Legible := SessionSettings.legible_of_expiry granted
      have hy : P y.toRecord := passes.touch x.toRecord e hx granted
      exact (h.insert fits legible hy).offer ⟨fits, lasting.written y.toRecord legible hy⟩

theorem resolve (lasting : SessionRecord.Lasting P) (token : String) :
    (m.resolve ctx b token).2.1.Throughout P Q (m.resolve ctx b token).2.2 := by
  cases valid : ctx.issuer.validate token with
  | error e =>
    rw [SessionManager.resolve, valid]
    exact h
  | ok claims =>
    cases revoked : m.cache.isRevoked claims.sid with
    | true =>
      rw [resolve_of_revoked valid revoked]
      exact h
    | false =>
      have found := h.find passes claims.sid
      have same := (m.keeps_find ctx b claims.sid).settings
      rcases search : m.find ctx b claims.sid with ⟨e | x, m', b'⟩
      · rw [resolve_of_missed valid revoked search]
        rw [search] at found
        exact found.1
      · rw [resolve_of_found valid revoked search]
        rw [search] at found same
        obtain ⟨found, property⟩ := found
        obtain ⟨fits, -, hx⟩ := property x rfl
        exact found.answer (same ▸ passes) lasting claims fits hx

end resolve

section lasting

variable (h : m.Throughout P Q b) (lasting : SessionRecord.Lasting P) {now : Instant}

include h lasting

theorem invalidate (dated : Q now) (u : Uuid) : (m.invalidate now u).2.Throughout P Q b := by
  have buried : ∀ x : Session, x.toRecord.Fits ∧ x.expiresAt.Legible ∧ P x.toRecord →
      x.invalidate.toRecord.Fits ∧ x.invalidate.expiresAt.Legible ∧ P x.invalidate.toRecord :=
    fun x ⟨fits, legible, hx⟩ => ⟨fits.flagged, legible, lasting.flagged _ hx⟩
  cases revoked : m.cache.isRevoked u with
  | true =>
    rw [invalidate_of_revoked revoked]
    exact h
  | false =>
    have live := SessionCache.forall_bury (fun x cached => (h.live u x cached).1) h.live
      (fun x hx => ⟨hx.1, buried x hx.2⟩) now
    have tombstones : ∀ (v : Uuid) t, (m.cache.bury u now).revoked[v]? = some t → Q t := by
      intro v t set
      rw [SessionCache.revoked_bury] at set
      split at set
      · exact Option.some.inj set ▸ dated
      · exact h.revoked v t set
    have buriedCache : Throughout P Q { m with cache := m.cache.bury u now } b :=
      ⟨live, tombstones, h.writes⟩
    rw [invalidate_of_free revoked]
    refine buriedCache.offer ?_
    rcases m.invalidation_cases u with asked | asked | ⟨x, cached, asked⟩
    · exact asked ▸ trivial
    · exact asked ▸ trivial
    · obtain ⟨fits, legible, hx⟩ := buried x (h.live u x cached).2
      rw [asked]
      exact ⟨fits, lasting.written _ legible hx⟩

theorem invalidateAll (dated : Q now) (us : List Uuid) :
    (m.invalidateAll now us).2.Throughout P Q b := by
  induction us generalizing m with
  | nil => exact h
  | cons u us ih => exact ih (h.invalidate lasting dated u)

theorem invalidateUser (dated : Q now) (user : String) :
    (m.invalidateUser now b user).2.1.Throughout P Q (m.invalidateUser now b user).2.2 := by
  have read := h.read b.store_range
  rcases m.invalidateUser_cases now b user with ⟨_, _, failed⟩ | ⟨_, done⟩
  · rw [failed]
    exact read
  · rw [done]
    exact read.invalidateAll lasting dated _

theorem logout {ctx : SessionContext} (dated : Q ctx.now) (token : String) :
    (m.logout ctx token).2.Throughout P Q b := by
  unfold SessionManager.logout
  split
  · exact h
  · exact h.invalidate lasting dated _

end lasting

end Throughout

/-- What a call may write has the properties, if what it finds does. -/
def Provides (P : SessionRecord → Prop) (Q : Instant → Prop) (m : SessionManager) : Call → Prop
  | .create ctx u p c => p.user.utf8ByteSize < 2 ^ 64 ∧ c.length < 2 ^ 64 ∧
    ∀ e, Session.expiry ctx.now m.settings.ttl = .ok e →
      P ⟨u, p.user, ctx.now, ctx.now, e, c, false⟩
  | .resolve ctx _ => ctx.Passes m.settings.ttl P
  | .logout ctx _ => Q ctx.now
  | .invalidate now _ => Q now
  | .invalidateUser now _ => Q now
  | _ => True

theorem Throughout.perform {P : SessionRecord → Prop} {Q : Instant → Prop} {m : SessionManager}
    {b : Backend} (h : m.Throughout P Q b) (lasting : SessionRecord.Lasting P) {c : Call}
    (new : m.Provides P Q c) :
    (c.perform m b).2.1.Throughout P Q (c.perform m b).2.2 := by
  cases c with
  | create ctx u p k =>
    have created := h.create lasting ctx new.1 new.2.1 new.2.2
    simp only [Call.perform]
    split <;> next answer => rwa [answer] at created
  | resolve ctx token =>
    have resolved := h.resolve new lasting token
    simp only [Call.perform]
    split <;> next answer => rwa [answer] at resolved
  | logout ctx token =>
    have loggedOut := h.logout lasting new token
    simp only [Call.perform]
    split <;> next answer => rwa [answer] at loggedOut
  | invalidate t u => exact h.invalidate lasting new u
  | invalidateUser t user =>
    have invalidated := h.invalidateUser lasting new user
    simp only [Call.perform]
    split <;> next answer => rwa [answer] at invalidated
  | sweep t reached => exact h.sweep t reached
  | work =>
    exact ⟨h.live, h.revoked, h.writes.worked lasting.flagged (WriteQueue.worked_work _ _)⟩
  | retry =>
    exact ⟨h.live, h.revoked, h.writes.worked lasting.flagged (WriteQueue.worked_retry _ _)⟩
  | flush t => exact ⟨h.live, h.revoked, h.writes.of_pending (m.writes.queue.pending_beginFlush t)⟩
  | sendBarrier => exact ⟨h.live, h.revoked, h.writes.of_pending m.writes.queue.pending_sendBarrier⟩

end SessionManager

end SessionGateway
