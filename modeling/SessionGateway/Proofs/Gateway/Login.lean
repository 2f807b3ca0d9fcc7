import SessionGateway.Gateway.Basic
import SessionGateway.Proofs.Session.Manager

/-! What a login leaves behind. One that succeeds and one that is refused are audited once each. One
that is recognized and then gets no session is not audited at all, and the directory has taken the
principal in by then; the sessions are as they were. -/

namespace SessionGateway

/-- The calls that hand an event to an auditor. -/
def PluginCall.isAudit : PluginCall → Bool
  | audit _ _ => true
  | _ => false

namespace AuditChain

theorem filter_deliveries (c : AuditChain) (event : AuditEvent) :
    (c.deliveries event).filter PluginCall.isAudit = c.deliveries event := by
  rw [List.filter_eq_self]
  intro call delivered
  obtain ⟨-, -, rfl⟩ := List.mem_map.mp delivered
  rfl

theorem filter_append_deliveries (c : AuditChain) {calls : List PluginCall}
    (silent : calls.filter PluginCall.isAudit = []) (event : AuditEvent) :
    (calls ++ c.deliveries event).filter PluginCall.isAudit = c.deliveries event := by
  rw [List.filter_append, silent, c.filter_deliveries, List.nil_append]

end AuditChain

theorem LoginRequest.filter_ask (login : LoginRequest) (as : List (PluginId × Authenticator)) :
    (login.ask as).2.filter PluginCall.isAudit = [] := by
  induction as with
  | nil => rfl
  | cons a rest ih =>
    rw [ask]
    cases a.2.seed? login with
    | some seed => rfl
    | none => exact ih

namespace Gateway

variable (g : Gateway)

theorem filter_seedOf (login : LoginRequest) :
    (g.seedOf login).2.filter PluginCall.isAudit = [] := by
  have asked := login.filter_ask g.registry.authenticators.toList
  unfold seedOf LoginRequest.recognizedBy
  cases found : login.ask g.registry.authenticators.toList with
  | mk who calls =>
    rw [found] at asked
    cases who <;> exact asked

theorem create_cases (uuid : Uuid) (p : Principal) :
    (∃ e, g.create uuid p = (.error (.session e), g)) ∨
      ∃ issued sessions, issued.session.uuid = uuid ∧
        g.create uuid p = (.ok issued, { g with sessions }) := by
  unfold create
  rcases g.sessions.create_cases g.context uuid p [] with ⟨e, failed⟩ | ⟨x, token, started, made⟩
  · rw [failed]
    exact .inl ⟨e, rfl⟩
  · rw [made]
    obtain ⟨-, -, rfl⟩ := Session.start_eq_ok started
    exact .inr ⟨_, _, rfl, rfl⟩

def enrolled (seed : Seed) : Gateway :=
  { g with host.directory := (g.host.directory.login seed g.host.now).2 }

theorem login_of_unknown {login : LoginRequest} {calls : List PluginCall} (uuid : Uuid)
    (unknown : g.seedOf login = (none, calls)) :
    g.login uuid login = ((.error (.authenticationFailed login.user),
      calls ++ g.audit.deliveries (.login login.method .failure none login.user)), g) := by
  -- A login is for no endpoint, so its event is not excluded.
  rw [Gateway.login, unknown]
  rfl

/-- What the auditors are told of a login for which a seed was found. -/
def recognizedAudit (uuid : Uuid) (login : LoginRequest) (seed : Seed) :
    Except GatewayError IssuedSession → List PluginCall
  | .ok _ => g.audit.deliveries (.login login.method .success (some uuid) seed.user)
  | .error _ => []

theorem login_of_seed {login : LoginRequest} {seed : Seed} {calls : List PluginCall} (uuid : Uuid)
    (known : g.seedOf login = (some seed, calls)) :
    let opened := (g.enrolled seed).create uuid (g.host.directory.login seed g.host.now).1
    g.login uuid login =
      ((opened.1, calls ++ g.recognizedAudit uuid login seed opened.1), opened.2) := by
  intro opened
  rw [Gateway.login, known]
  rcases (g.enrolled seed).create_cases uuid (g.host.directory.login seed g.host.now).1 with
    ⟨e, failed⟩ | ⟨issued, sessions, -, issues⟩
  · have opens : opened = _ := failed
    rw [opens, recognizedAudit, List.append_nil]
    unfold enrolled at failed ⊢
    dsimp only at failed ⊢
    rw [failed]
  · have opens : opened = _ := issues
    rw [opens]
    unfold enrolled at issues ⊢
    dsimp only at issues ⊢
    rw [issues]
    rfl

theorem login_of_known {login : LoginRequest} {seed : Seed} {calls : List PluginCall} (uuid : Uuid)
    (known : g.seedOf login = (some seed, calls)) :
    (∃ e, g.login uuid login = ((.error (.session e), calls), g.enrolled seed)) ∨
      ∃ issued sessions, issued.session.uuid = uuid ∧
        g.login uuid login = ((.ok issued,
          calls ++ g.audit.deliveries (.login login.method .success (some uuid) seed.user)),
          { g.enrolled seed with sessions }) := by
  rw [login_of_seed g uuid known]
  rcases (g.enrolled seed).create_cases uuid (g.host.directory.login seed g.host.now).1 with
    ⟨e, failed⟩ | ⟨issued, sessions, same, issues⟩
  · rw [failed, recognizedAudit, List.append_nil]
    exact .inl ⟨e, rfl⟩
  · rw [issues]
    exact .inr ⟨issued, sessions, same, rfl⟩

/-- A login that succeeds hands each auditor one event, of success and with the new session. One that
fails leaves the sessions as they were; if nobody recognized the user each auditor is handed one
event of failure and nothing else happens, but a failure after that is not audited, and the
directory keeps the principal. -/
theorem login_audited (uuid : Uuid) (login : LoginRequest) :
    let r := g.login uuid login
    let audits := r.1.2.filter PluginCall.isAudit
    (∀ issued, r.1.1 = .ok issued →
      ∃ seed, (g.seedOf login).1 = some seed ∧ issued.session.uuid = uuid ∧
        audits = g.audit.deliveries (.login login.method .success (some uuid) seed.user)) ∧
    ∀ e, r.1.1 = .error e → r.2.sessions = g.sessions ∧
      match (g.seedOf login).1 with
      | none => e = .authenticationFailed login.user ∧ r.2 = g ∧
          audits = g.audit.deliveries (.login login.method .failure none login.user)
      | some seed => (∃ cause, e = .session cause) ∧ r.2 = g.enrolled seed ∧ audits = [] := by
  intro r audits
  have asked := g.filter_seedOf login
  cases found : g.seedOf login with
  | mk seed calls =>
    rw [found] at asked
    cases seed with
    | none =>
      have ends : r = _ := g.login_of_unknown uuid found
      have audited : audits =
          g.audit.deliveries (.login login.method .failure none login.user) := by
        change r.1.2.filter _ = _
        rw [ends]
        exact g.audit.filter_append_deliveries asked _
      refine ⟨fun issued ok => ?_, fun e error => ?_⟩
      · rw [ends] at ok
        cases ok
      · rw [ends] at error
        cases error
        exact ⟨by rw [ends], rfl, by rw [ends], audited⟩
    | some seed =>
      rcases g.login_of_known uuid found with ⟨cause, ends⟩ | ⟨issued, sessions, same, ends⟩
      · have ends : r = _ := ends
        have silent : audits = [] := by
          change r.1.2.filter _ = _
          rw [ends]
          exact asked
        refine ⟨fun issued ok => ?_, fun e error => ?_⟩
        · rw [ends] at ok
          cases ok
        · rw [ends] at error
          cases error
          exact ⟨by rw [ends]; rfl, ⟨cause, rfl⟩, by rw [ends], silent⟩
      · have ends : r = _ := ends
        have audited : audits =
            g.audit.deliveries (.login login.method .success (some uuid) seed.user) := by
          change r.1.2.filter _ = _
          rw [ends]
          exact g.audit.filter_append_deliveries asked _
        refine ⟨fun issued' ok => ?_, fun e error => ?_⟩
        · rw [ends] at ok
          cases ok
          exact ⟨seed, rfl, same, audited⟩
        · rw [ends] at error
          cases error

theorem login_silent_without_token :
    let auditor : Auditor := ⟨"recorder", fun _ => .ok ()⟩
    let recorder : StaticModule :=
      ⟨⟨"recorder", "recorder", "1", { audit := true }, .ok ()⟩, [.audit auditor]⟩
    let o : GatewayOptions := {
      opener := ⟨fun _ => .ok ["recorder.so"], fun _ => .ok recorder.handle⟩
      issuer := some ⟨fun _ => .error .expired, fun _ => .error .expired, .ofSeconds 1⟩
      verifier := some fun login => some { user := login.user } }
    let login : LoginRequest := { user := "bob", secret := "pw" }
    ∃ g, start o { now := .epoch, wall := 0 } = .ok g ∧
      g.audit.auditors = [("recorder", auditor)] ∧ (g.host.directory.resolve "bob").isNone = true ∧
      (g.login .zero login).1.1.isOk = false ∧
      (g.login .zero login).1.2.filter PluginCall.isAudit = [] ∧
      ((g.login .zero login).2.host.directory.resolve "bob").isSome = true := by
  intro auditor recorder o login
  obtain ⟨g, started⟩ : ∃ g, start o { now := .epoch, wall := 0 } = .ok g := ⟨_, rfl⟩
  have auditors : g.audit.auditors = [("recorder", auditor)] := by cases started; rfl
  have absent : (g.host.directory.resolve "bob").isNone = true := by
    cases started; decide +kernel
  have known : (g.seedOf login).1 = some { user := "bob" } := by cases started; decide +kernel
  have fails : (g.login .zero login).1.1.isOk = false := by cases started; decide +kernel
  have present : ((g.login .zero login).2.host.directory.resolve "bob").isSome = true := by
    cases started; decide +kernel
  refine ⟨g, started, auditors, absent, fails, ?_, present⟩
  cases ends : (g.login .zero login).1.1 with
  | ok issued =>
    rw [ends] at fails
    cases fails
  | error e =>
    obtain ⟨-, silent⟩ := g.login_audited .zero login
    have left := (silent e ends).2
    rw [known] at left
    exact left.2.2

end Gateway

end SessionGateway
