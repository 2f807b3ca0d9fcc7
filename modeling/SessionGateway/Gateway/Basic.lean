import SessionGateway.Chain.Audit
import SessionGateway.Chain.Authentication
import SessionGateway.Chain.DataEvent
import SessionGateway.Chain.Extension
import SessionGateway.Clock.Timer
import SessionGateway.Gateway.Error
import SessionGateway.Identity.Directory
import SessionGateway.Plugin.Loader
import SessionGateway.Plugin.Stop
import SessionGateway.Session.Manager
import SessionGateway.Token.Signed

/-! The gateway: sessions, plugins and their chains, a periodic sweep and an orderly shutdown. It
lives in a host, which owns what outlasts it: the store, the directory, the clocks, and the hook
through which a database reports its errors. -/

namespace SessionGateway

/-- What a gateway shares with the process that it runs in: the clocks of the sessions, of the tokens
(`wall`) and of the timers (`elapsed`), and the hook, which errors of a database go through. -/
structure Host where
  backend : Backend := {}
  directory : Directory := {}
  now : Instant
  wall : Int
  elapsed : Nat := 0
  hook : Option AuditChain := none

structure GatewayOptions where
  settings : Settings := {}
  opener : ModuleOpener
  issuer : Option TokenIssuer := none
  verifier : Option (LoginRequest → Option Seed) := none
  source : Option (String → Option Principal) := none
  installsHook : Bool := true
  listens : Bool := true

/-- There is no next sweep after a shutdown or the crash of a sweep. -/
structure Gateway where
  options : GatewayOptions
  host : Host
  sessions : SessionManager
  plugins : Scan
  audit : AuditChain
  ownsHook : Bool
  shutdown : Shutdown
  nextSweep : Option Nat

namespace Gateway

def settings (g : Gateway) : Settings := g.options.settings

def registry (g : Gateway) : Registry := g.plugins.registry

def sweepPeriod (s : Settings) : Nat := s.session.sweepIntervalSecs.toNat * 1000

/-- The only reasons not to start are settings that cannot be used, and a queue that cannot be made;
modules that cannot be loaded are left out. -/
def start (o : GatewayOptions) (host : Host) : Except StartFailure Gateway :=
  match o.settings.check, SessionManager.start o.settings.session with
  | .error e, _ => .error (.refused (.settings e))
  | .ok _, .error crash => .error (.crashed crash)
  | .ok _, .ok sessions =>
    let plugins := Scan.run o.opener o.settings.plugins o.settings.plugins.directory
    let audit := AuditChain.ofRegistry plugins.registry o.settings.audit
    let ownsHook := o.installsHook && plugins.registry.hasAudit
    .ok {
      options := o
      host := if ownsHook then { host with hook := some audit } else host
      sessions := { sessions with writes := sessions.writes.spawn.2 }
      plugins
      audit
      ownsHook
      shutdown := {
        gate := .ofRegistry plugins.registry
        listener := if o.listens then .waiting else .absent }
      nextSweep := some (host.elapsed + sweepPeriod o.settings) }

def context (g : Gateway) : SessionContext where
  issuer := g.options.issuer.getD
    (SignedToken.issuer g.settings.token.secret g.settings.token.lifetime g.host.wall)
  principals := g.options.source.getD g.host.directory.resolve
  now := g.host.now

/-- Authenticators come before the verifier. -/
def seedOf (g : Gateway) (login : LoginRequest) : Option Seed × List PluginCall :=
  match login.recognizedBy g.registry with
  | (some found, calls) => (some found.seed, calls)
  | (none, calls) => (g.options.verifier.bind fun verify => verify login, calls)

def create (g : Gateway) (uuid : Uuid) (principal : Principal) :
    Except GatewayError IssuedSession × Gateway :=
  let (issued, sessions) := g.sessions.create g.context uuid principal []
  (issued.mapError .session, { g with sessions })

def notify (g : Gateway) (event : AuditEvent) : AuditReport × List PluginCall :=
  g.audit.dispatch true event

/-- Authenticates a user and opens a session. Failed logins are audited, and so are the others once
the session is open. -/
def login (g : Gateway) (uuid : Uuid) (login : LoginRequest) :
    (Except GatewayError IssuedSession × List PluginCall) × Gateway :=
  match g.seedOf login with
  | (none, calls) =>
    let (_, audited) := g.notify (.login login.method .failure none login.user)
    ((.error (.authenticationFailed login.user), calls ++ audited), g)
  | (some seed, calls) =>
    let (principal, directory) := g.host.directory.login seed g.host.now
    match create { g with host.directory := directory } uuid principal with
    | (.error e, g) => ((.error e, calls), g)
    | (.ok issued, g) =>
      let (_, audited) := g.notify (.login login.method .success (some uuid) seed.user)
      ((.ok issued, calls ++ audited), g)

def openSession (g : Gateway) (uuid : Uuid) (principal : Principal) :
    Except GatewayError IssuedSession × Gateway :=
  create { g with host.directory := g.host.directory.remember principal } uuid principal

/-- Ends the session of a token. The audit names the user only if the session is cached. -/
def logout (g : Gateway) (token : String) :
    (Except GatewayError Uuid × List PluginCall) × Gateway :=
  match g.sessions.logout g.context token with
  | (.error e, sessions) => ((.error (.session e), []), { g with sessions })
  | (.ok uuid, sessions) =>
    let user := (sessions.cache.get? uuid).elim "" fun s => s.principal.user
    let (_, audited) := g.notify (.login "logout" .logout (some uuid) user)
    ((.ok uuid, audited), { g with sessions })

def resolve (g : Gateway) (token : String) :
    Except GatewayError (Uuid × Principal) × Gateway :=
  let (found, sessions, backend) := g.sessions.resolve g.context g.host.backend token
  (found.mapError .session, { g with sessions, host.backend := backend })

def validate (g : Gateway) (token : String) : Except GatewayError Principal × Gateway :=
  let (found, g) := g.resolve token
  (found.map (·.2), g)

def authenticate (g : Gateway) (request : Request) :
    Except GatewayError RequestContext × Gateway :=
  match request.bearerToken with
  | none => (.error .missingToken, g)
  | some token =>
    let (found, g) := g.resolve token
    (found.map fun (uuid, principal) => { principal, session := some uuid, request }, g)

def invalidate (g : Gateway) (uuid : Uuid) : Bool × Gateway :=
  let (fresh, sessions) := g.sessions.invalidate g.host.now uuid
  (fresh, { g with sessions })

def invalidateUser (g : Gateway) (user : String) : Except GatewayError Nat × Gateway :=
  let (count, sessions, backend) := g.sessions.invalidateUser g.host.now g.host.backend user
  (count.mapError .session, { g with sessions, host.backend := backend })

def authorize (g : Gateway) (access : Access) : Bool × List PluginCall :=
  access.decide g.registry

def route (g : Gateway) (principal : Principal) (request : Request) :
    Outcome Routed × List PluginCall :=
  g.registry.route principal request

def publish (g : Gateway) (event : DataEvent) : Nat × List PluginCall :=
  g.registry.publish event

/-- Reports an error of the database through the hook, if one is installed. -/
def reportError (h : Host) (elapsed : Nat) (context : RequestContext) (message : String) :
    Option (AuditReport × List PluginCall) :=
  h.hook.map fun chain =>
    chain.dispatch true (.sendError elapsed context.principal context.request message)

def sweep (g : Gateway) (reached : Uuid → Bool := fun _ => false) :
    Except Crash SweepReport × Gateway :=
  let (report, sessions) := g.sessions.sweep g.host.now reached
  (report, { g with sessions })

def flush (g : Gateway) : Bool × Gateway :=
  let (done, writes, backend) := g.sessions.writes.flush g.host.elapsed g.host.backend
  (done, { g with sessions.writes := writes, host.backend := backend })

/-- The sweep that is due; one that crashes is the last. -/
def periodicSweep (g : Gateway) (reached : Uuid → Bool) : Gateway :=
  match g.nextSweep with
  | none => g
  | some due =>
    if g.host.elapsed < due then g
    else
      match g.sweep reached with
      | (.ok _, g) =>
        { g with nextSweep := some (Timer.next (sweepPeriod g.settings) due g.host.elapsed) }
      | (.error _, g) => { g with nextSweep := none }

def elapse (g : Gateway) (millis : Nat) (reached : Uuid → Bool := fun _ => false) : Gateway :=
  let g := periodicSweep { g with host.elapsed := g.host.elapsed + millis } reached
  let (writes, backend) := g.sessions.writes.runOnly g.host.elapsed g.host.backend
  { g with sessions.writes := writes, host.backend := backend }

def settle (g : Gateway) : List PluginCall × Gateway :=
  let (calls, shutdown) := g.shutdown.settle
  (calls, { g with shutdown, nextSweep := if shutdown.triggered then none else g.nextSweep })

def trigger (g : Gateway) : List PluginCall × Gateway :=
  settle { g with shutdown := g.shutdown.trigger }

/-- Ends the background work, stops the plugins, writes what is queued and gives the hook back. -/
def close (g : Gateway) : List PluginCall × Gateway :=
  let (settled, g) := g.trigger
  let ((_, stopped), shutdown) := g.shutdown.stopAll
  let (_, g) := flush { g with shutdown }
  let (_, backend) := g.host.backend.flush
  let hook := if g.ownsHook then none else g.host.hook
  (settled ++ stopped, { g with host := { g.host with backend, hook } })

/-- Closes the gateway and gives up its queue, so that pending writes are tried once more. What is
left is the host. -/
def retire (g : Gateway) : List PluginCall × Host :=
  let (calls, g) := g.close
  let (_, backend) := g.sessions.writes.close g.host.elapsed g.host.backend
  (calls, { g.host with backend })

end Gateway

structure GatewayHealth where
  persistence : PersistenceHealth
  sessions : SessionStats
  pluginsLoaded : Nat
  pluginsSkipped : Nat
  auditHook : Bool
  shuttingDown : Bool
deriving DecidableEq

def GatewayHealth.isDegraded (h : GatewayHealth) : Bool :=
  h.persistence.isDegraded

def Gateway.health (g : Gateway) : GatewayHealth where
  persistence := g.sessions.health
  sessions := g.sessions.stats
  pluginsLoaded := g.plugins.descriptors.length
  pluginsSkipped := g.plugins.skipped.length
  auditHook := g.ownsHook
  shuttingDown := g.shutdown.triggered

end SessionGateway
