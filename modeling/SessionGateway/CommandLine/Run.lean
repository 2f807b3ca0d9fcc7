import SessionGateway.CommandLine.Failure
import SessionGateway.CommandLine.Machine
import SessionGateway.CommandLine.Usage
import SessionGateway.Settings.Document
import SessionGateway.Settings.Environment

/-! The commands. A run ends with 0, with 1 if its command fails, with 2 if its arguments are
faulty, and with 101 if the program crashes. -/

namespace SessionGateway

namespace CommandLine

def versionText : String :=
  s!"{programName} {programVersion}\n"

def summary : String :=
  "Session and plugin runtime for a database-backed REST gateway\n"

/-- The settings that the options ask for; a list without names leaves the allow-list alone. -/
def ServeOptions.settings (o : ServeOptions) (base : Settings) : Settings :=
  { base with
    plugins := {
      directory := o.pluginDir.or base.plugins.directory
      allowList := (o.allow.bind Settings.allowedNames).or base.plugins.allowList }
    storage := {
      kind := o.storage.getD base.storage.kind
      path := o.dataDir.getD base.storage.path } }

def descriptorLine (d : Descriptor) : String :=
  let names := ", ".intercalate d.registered.labels
  s!"  → {d.contract.name} {d.contract.version} ({names})\n"

def banner (g : Gateway) : String :=
  .join (g.plugins.descriptors.map descriptorLine) ++
    s!"{g.health.report}\nPress Ctrl-C to stop.\n"

/-- The sessions of one user or of all that are neither flagged nor expired, latest access first. -/
def listed (store : SessionStore) (now : Instant) (user : Option String) : List SessionRecord :=
  let wanted (r : SessionRecord) : Bool := user.all (· = r.user) && !r.isExpired now
  (store.active.filter wanted).mergeSort fun a b => b.lastAccess ≤ a.lastAccess

def storeOf (d : Database) : SessionStore :=
  ⟨d.tree SessionStore.treeName⟩

namespace Machine

variable {m : Type → Type} [Monad m] (machine : Machine m)

def attempt {ε α : Type} (failed : ε → Failure) : Except ε α → ExceptT Failure m α
  | .ok x => pure x
  | .error e => throw (failed e)

/-- The settings of a file, checked; the default ones if no file is named. -/
def baseSettings : Option String → ExceptT Failure m Settings
  | none => pure {}
  | some path => do
    let text ← attempt (fun e => .settings (.unreadable path e)) (← machine.readText path)
    attempt .settings (Settings.ofDocument text)

/-- A directory that cannot be listed holds no modules. -/
def opener (directory : Option String) : m ModuleOpener := do
  match directory with
  | none => return .ofDirectory "" [] machine.openLibrary
  | some path =>
    return .ofDirectory path ((← machine.entries? path).getD []) machine.openLibrary

/-- The database that a gateway works on; one in memory starts empty. -/
def database (s : StorageSettings) : ExceptT Failure m Database := do
  match s.kind with
  | .sled => attempt (fun e => .gateway (.storage e)) (← machine.openDatabase s.path)
  | .memory => return .empty .memory

/-- Runs a gateway. The settings come from the file, then from the environment, then from the
options. -/
def serve (o : ServeOptions) : ExceptT Failure m Unit := do
  let base ← machine.baseSettings o.config
  let settings := o.settings (← attempt .settings (base.overlay machine.lookup))
  if settings.storage.kind = .sled then
    attempt .directory (← machine.makeDirectory settings.storage.path)
  machine.print "Starting restgate...\n"
  let database ← machine.database settings.storage
  let host : Host := {
    backend := { store := storeOf database }
    now := machine.now
    wall := machine.now.seconds }
  let opener ← machine.opener settings.plugins.directory
  let gateway ← attempt .ofStart (Gateway.start { settings, opener } host)
  machine.print (banner gateway)
  machine.awaitStop
  let (_, gateway) := gateway.close
  if settings.storage.kind = .sled then
    let last := database.setTree SessionStore.treeName gateway.host.backend.store.tree
    machine.saveDatabase settings.storage.path last
  machine.print "restgate stopped\n"

def plugins (directory : String) (allow : Option String) (format : ReportFormat) :
    ExceptT Failure m Unit := do
  match ← machine.entries? directory with
  | none => throw (.noPluginDirectory directory)
  | some entries =>
    let opener := ModuleOpener.ofDirectory directory entries machine.openLibrary
    let scan := Scan.run opener { allowList := allow.bind Settings.allowedNames } (some directory)
    machine.print (scan.report format)

def sessions (directory : String) (user : Option String) (format : ReportFormat) :
    ExceptT Failure m Unit := do
  unless ← machine.pathExists directory do
    throw (.noStore directory)
  let database ← attempt .storage (← machine.openDatabase directory)
  unless database.names.contains SessionStore.treeName do
    throw (.noSessions directory)
  machine.print (SessionRecord.report (listed (storeOf database) machine.now user) format)

def perform : Command → ExceptT Failure m Unit
  | .serve o => machine.serve o
  | .plugins directory allow format => machine.plugins directory allow format
  | .sessions directory user format => machine.sessions directory user format
  | .version => machine.print (versionText ++ summary)

def run (arguments : List String) : m UInt32 := do
  match parse arguments with
  | .error (.fault e) =>
    machine.complain e.message
    return 2
  | .error (.helpWanted scope) =>
    machine.print scope.help
    return 0
  | .error .versionWanted =>
    machine.print versionText
    return 0
  | .ok command =>
    match ← (machine.perform command).run with
    | .ok _ => return 0
    | .error e =>
      machine.complain e.message
      return e.exitCode

end Machine

end CommandLine

end SessionGateway
