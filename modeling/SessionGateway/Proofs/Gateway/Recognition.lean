import SessionGateway.Proofs.Chain.Authentication
import SessionGateway.Proofs.Gateway.Login
import SessionGateway.Proofs.Gateway.Served
import SessionGateway.Proofs.Identity.Directory

/-! Whose session a login opens. The seed is that of the first authenticator that recognizes the
login, or else the verifier's, and the principal of the session is the one that the directory has
for that seed. The verifier has no part in a login that an authenticator recognizes, and neither has
an authenticator that does not recognize it in any. -/

namespace SessionGateway

def PluginCall.isAuthentication : PluginCall → Bool
  | authenticate _ _ => true
  | _ => false

theorem LoginRequest.filter_questions (login : LoginRequest)
    (ps : List (PluginId × Authenticator)) :
    (ps.map login.question).filter PluginCall.isAuthentication = ps.map login.question := by
  rw [List.filter_eq_self]
  intro call asked
  obtain ⟨p, -, rfl⟩ := List.mem_map.mp asked
  rfl

theorem AuditChain.filter_deliveries_authentication (c : AuditChain) (event : AuditEvent) :
    (c.deliveries event).filter PluginCall.isAuthentication = [] := by
  rw [List.filter_eq_nil_iff]
  intro call delivered
  obtain ⟨p, -, rfl⟩ := List.mem_map.mp delivered
  exact Bool.false_ne_true

theorem Directory.faithful_ofHistory (defaultRoles : List String) (calls : List DirectoryCall) :
    (ofHistory defaultRoles calls).Faithful := by
  have empty : Faithful { defaultRoles } := fun name p known => by simp [resolve] at known
  have performed {d : Directory} (h : d.Faithful) (c : DirectoryCall) : (d.perform c).Faithful := by
    cases c with
    | login a => exact h.login a.seed a.time
    | remember p => exact h.remember p
    | forget user => exact h.forget user
  unfold ofHistory
  induction calls using List.reverseRecOn with
  | nil => exact empty
  | append_singleton calls c ih =>
    rw [List.foldl_concat]
    exact performed ih c

namespace Gateway

variable {g : Gateway} {login : LoginRequest} {seed : Seed} {calls : List PluginCall}

theorem principal_of_create {g : Gateway} {uuid : Uuid} {p : Principal} {issued : IssuedSession}
    (h : (g.create uuid p).1 = .ok issued) : issued.session.principal = p := by
  change (g.sessions.create g.context uuid p []).1.mapError GatewayError.session = _ at h
  rcases made : g.sessions.create g.context uuid p [] with ⟨_ | i, sessions⟩
  · rw [made] at h
    cases h
  · rw [made] at h
    cases h
    exact (SessionManager.create_eq_ok made).2.1

/-- The login goes on with the seed: a session is opened for the principal that the directory then
has for it, who is the user of the seed. -/
structure ProceedsWith (g : Gateway) (uuid : Uuid) (login : LoginRequest) (seed : Seed) : Prop where
  chosen : (g.seedOf login).1 = some seed
  opened : ((g.login uuid login).1.1, (g.login uuid login).2) =
    (g.enrolled seed).create uuid (g.host.directory.login seed g.host.now).1
  user : ∀ issued, (g.login uuid login).1.1 = .ok issued →
    issued.session.principal.user = seed.user

theorem proceedsWith (faithful : g.host.directory.Faithful) (uuid : Uuid)
    (known : g.seedOf login = (some seed, calls)) : g.ProceedsWith uuid login seed where
  chosen := by rw [known]
  opened := by rw [login_of_seed _ uuid known]
  user issued ok := by
    rw [login_of_seed _ uuid known] at ok
    rw [principal_of_create ok]
    exact faithful.user_login seed g.host.now

def asked (g : Gateway) (uuid : Uuid) (login : LoginRequest) : List PluginCall :=
  (g.login uuid login).1.2.filter PluginCall.isAuthentication

theorem asked_eq {ps : List (PluginId × Authenticator)} (uuid : Uuid)
    (questions : (g.seedOf login).2 = ps.map login.question) :
    g.asked uuid login = ps.map login.question := by
  unfold asked
  cases found : g.seedOf login with
  | mk seed calls =>
    obtain rfl : calls = ps.map login.question := by rw [← questions, found]
    cases seed with
    | none =>
      rw [login_of_unknown g uuid found, List.filter_append, login.filter_questions,
        AuditChain.filter_deliveries_authentication, List.append_nil]
    | some seed =>
      have audit : (g.recognizedAudit uuid login seed
          ((g.enrolled seed).create uuid (g.host.directory.login seed g.host.now).1).1).filter
            PluginCall.isAuthentication = [] := by
        unfold recognizedAudit
        split
        · exact AuditChain.filter_deliveries_authentication _ _
        · rfl
      rw [login_of_seed _ uuid found, List.filter_append, login.filter_questions, audit,
        List.append_nil]

theorem seedOf_eq (g : Gateway) (login : LoginRequest) :
    let answer := login.recognizedBy g.registry
    g.seedOf login =
      ((answer.1.map (·.seed)).or (g.options.verifier.bind (· login)), answer.2) := by
  unfold seedOf
  rcases login.recognizedBy g.registry with ⟨_ | found, calls⟩ <;> rfl

theorem login_of_verifier {id : PluginId} (first : login.FirstRecognized g.registry id seed)
    (uuid : Uuid) (verifier : Option (LoginRequest → Option Seed)) :
    { g with options.verifier := verifier }.login uuid login =
      ((g.login uuid login).1, { (g.login uuid login).2 with options.verifier := verifier }) := by
  obtain ⟨ps, -, answer⟩ := first.recognizedBy
  have known : g.seedOf login = (some seed, ps.map login.question) := by
    rw [seedOf_eq, answer]
    rfl
  have known' : { g with options.verifier := verifier }.seedOf login =
      (some seed, ps.map login.question) := by
    rw [seedOf_eq]
    change (((login.recognizedBy g.registry).1.map _).or _, (login.recognizedBy g.registry).2) = _
    rw [answer]
    rfl
  rw [login_of_seed _ uuid known, login_of_seed _ uuid known']
  rfl

theorem fst_seedOf_of_spares {r' : Registry} (spared : login.Spares g.registry r') :
    ({ g with plugins.registry := r' }.seedOf login).1 = (g.seedOf login).1 := by
  rw [seedOf_eq, seedOf_eq]
  change ((login.recognizedBy r').1.map _).or _ = _
  rw [spared.fst_recognizedBy]

theorem login_of_spares {r' : Registry} (spared : login.Spares g.registry r') (uuid : Uuid) :
    let left := { g with plugins.registry := r' }.login uuid login
    left.1.1 = (g.login uuid login).1.1 ∧
      left.2 = { (g.login uuid login).2 with plugins.registry := r' } := by
  have same := fst_seedOf_of_spares spared
  rcases found : g.seedOf login with ⟨_ | seed, calls⟩ <;>
    rcases found' : { g with plugins.registry := r' }.seedOf login with ⟨_ | seed', calls'⟩ <;>
    rw [found, found'] at same
  · rw [login_of_unknown _ uuid found, login_of_unknown _ uuid found']
    exact ⟨rfl, rfl⟩
  · cases same
  · cases same
  · obtain rfl := Option.some.inj same
    rw [login_of_seed _ uuid found, login_of_seed _ uuid found']
    exact ⟨rfl, rfl⟩

/-- A login that an authenticator recognizes goes on with the seed of the first that does. Only the
authenticators up to that one are asked, and the verifier makes no difference. If there is none they
are all asked, and the login goes on with the verifier's seed or fails and changes nothing. Without
authenticators that do not recognize it, the login chooses the same seed and ends the same way. -/
theorem login_chooses_seed (g : Gateway) (defaultRoles : List String)
    (history : List DirectoryCall) (known : g.host.directory = .ofHistory defaultRoles history)
    (uuid : Uuid) (login : LoginRequest) :
    (∀ id seed, login.FirstRecognized g.registry id seed →
      g.ProceedsWith uuid login seed ∧
      (∃ ps, ListsById (fun i a => g.registry.authenticators[i]? = some a ∧ i ≤ id) ps ∧
        g.asked uuid login = ps.map login.question) ∧
      ∀ verifier, { g with options.verifier := verifier }.login uuid login =
        ((g.login uuid login).1, { (g.login uuid login).2 with options.verifier := verifier })) ∧
    (login.Unrecognized g.registry →
      (∃ ps, ListsById (fun i a => g.registry.authenticators[i]? = some a) ps ∧
        g.asked uuid login = ps.map login.question) ∧
      match g.options.verifier.bind (· login) with
      | some seed => g.ProceedsWith uuid login seed
      | none => (g.login uuid login).1.1 = .error (.authenticationFailed login.user) ∧
          (g.login uuid login).2 = g) ∧
    (login.Unrecognized g.registry ∨ ∃ id seed, login.FirstRecognized g.registry id seed) ∧
    ∀ r', login.Spares g.registry r' →
      let left := { g with plugins.registry := r' }
      (left.seedOf login).1 = (g.seedOf login).1 ∧
      (left.login uuid login).1.1 = (g.login uuid login).1.1 ∧
      (left.login uuid login).2 = { (g.login uuid login).2 with plugins.registry := r' } := by
  have faithful : g.host.directory.Faithful :=
    known ▸ Directory.faithful_ofHistory defaultRoles history
  refine ⟨fun id seed first => ⟨?_, ?_, login_of_verifier first uuid⟩, fun unknown => ⟨?_, ?_⟩,
    login.unrecognized_or_first g.registry,
    fun r' spared => ⟨fst_seedOf_of_spares spared, login_of_spares spared uuid⟩⟩
  · obtain ⟨ps, -, answer⟩ := first.recognizedBy
    have chosen : g.seedOf login = (some seed, ps.map login.question) := by
      rw [seedOf_eq, answer]
      rfl
    exact proceedsWith faithful uuid chosen
  · obtain ⟨ps, listed, answer⟩ := first.recognizedBy
    exact ⟨ps, listed, asked_eq uuid (by rw [seedOf_eq, answer])⟩
  · obtain ⟨ps, listed, answer⟩ := unknown.recognizedBy
    exact ⟨ps, listed, asked_eq uuid (by rw [seedOf_eq, answer])⟩
  · obtain ⟨ps, -, answer⟩ := unknown.recognizedBy
    have chosen : g.seedOf login = (g.options.verifier.bind (· login), ps.map login.question) := by
      rw [seedOf_eq, answer]
      rfl
    cases verified : g.options.verifier.bind (· login) with
    | none =>
      rw [login_of_unknown g uuid (chosen.trans (by rw [verified]))]
      exact ⟨rfl, rfl⟩
    | some seed => exact proceedsWith faithful uuid (chosen.trans (by rw [verified]))

theorem login_chooses_seed_past_failures :
    let seed : Seed := { user := "bob", roles := ["staff"] }
    let failing : Authenticator := ⟨"ldap", fun _ => .error (.failed "directory unreachable")⟩
    let crashing : Authenticator := ⟨"radius", fun _ => .crash ⟨none⟩⟩
    let knowing : Authenticator := ⟨"file", fun _ => .ok (some seed)⟩
    let behind : Authenticator := ⟨"guest", fun _ => .ok (some { user := "guest" })⟩
    let r := (((Registry.addAuthenticator {} "d" behind).addAuthenticator "c" knowing
      ).addAuthenticator "b" crashing).addAuthenticator "a" failing
    let o : GatewayOptions := {
      opener := ⟨fun _ => .ok [], fun path => .error (.load path "no such file")⟩
      issuer := some ⟨fun _ => .ok "token", fun _ => .error .expired, .ofSeconds 1⟩
      verifier := some fun login => some { user := login.user } }
    let login : LoginRequest := { user := "b", secret := "pw" }
    ∃ started, start o { now := .epoch, wall := 0 } = .ok started ∧
      let g := { started with plugins.registry := r }
      (g.login .zero login).1.1.isOk = true ∧ g.ProceedsWith .zero login seed ∧
      (g.asked .zero login).length = 3 ∧
      ∃ ps, ListsById (fun i a => r.authenticators[i]? = some a ∧ i ≤ "c") ps ∧
        g.asked .zero login = ps.map login.question := by
  intro seed failing crashing knowing behind r o login
  obtain ⟨started, starts⟩ : ∃ g, start o { now := .epoch, wall := 0 } = .ok g := ⟨_, rfl⟩
  refine ⟨started, starts, ?_⟩
  intro g
  have known : g.host.directory = .ofHistory [] [] := by cases starts; rfl
  have opens : (g.login .zero login).1.1.isOk = true := by cases starts; decide +kernel
  have three : (g.asked .zero login).length = 3 := by cases starts; decide +kernel
  have first : login.FirstRecognized g.registry "c" seed := by
    have listed := ListsById.toList r.authenticators
    have pairs : r.authenticators.toList =
        [("a", failing), ("b", crashing), ("c", knowing), ("d", behind)] := rfl
    rw [pairs] at listed
    refine ⟨⟨knowing, (listed.mem_iff ("c", knowing)).mp (by simp), rfl⟩, ?_⟩
    intro earlier a other before held answered
    have member := (listed.mem_iff (earlier, a)).mpr held
    simp only [List.mem_cons, Prod.mk.injEq, List.not_mem_nil, or_false] at member
    rcases member with ⟨-, rfl⟩ | ⟨-, rfl⟩ | ⟨rfl, -⟩ | ⟨rfl, -⟩
    · cases answered
    · cases answered
    · exact absurd before (by decide)
    · exact absurd before (by decide)
  obtain ⟨recognized, -⟩ := login_chooses_seed g [] [] known .zero login
  obtain ⟨proceeds, asks, -⟩ := recognized "c" seed first
  exact ⟨opens, proceeds, three, asks⟩

end Gateway

end SessionGateway
