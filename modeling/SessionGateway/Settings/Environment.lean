import SessionGateway.Settings.Basic
import SessionGateway.Text.Numeral
import SessionGateway.Text.Pieces

/-! Environment variables laid over settings. A variable that is unset leaves its field alone; the
result is checked. -/

namespace SessionGateway.Settings

structure Variables where
  pluginDirectory : String := "RESTGATE_PLUGIN_DIR"
  allowList : String := "RESTGATE_PLUGINS"
  sessionTtl : String := "RESTGATE_SESSION_TTL_SECS"
  retention : String := "RESTGATE_SESSION_RETENTION"
  storageKind : String := "RESTGATE_STORAGE"
  dataDirectory : String := "RESTGATE_DATA_DIR"
  tokenSecret : String := "RESTGATE_TOKEN_SECRET"

def environment : Variables := {}

def Variables.all (v : Variables) : List String :=
  [v.pluginDirectory, v.allowList, v.sessionTtl, v.retention, v.storageKind, v.dataDirectory,
    v.tokenSecret]

def readVariable {α : Type} (lookup : String → Option String) (name : String)
    (parse : String → Except String α) (unset : α) : Except SettingsError α :=
  match lookup name with
  | none => .ok unset
  | some text => (parse text).mapError (.badVariable name)

def seconds (text : String) : Except String UInt64 :=
  (Text.numeral (Text.trim text)).mapError (·.message)

/-- A list without names allows every module. -/
def allowedNames (text : String) : Option (List String) :=
  match Text.commaList text with
  | [] => none
  | names => some names

def overlaid (s : Settings) (lookup : String → Option String) : Except SettingsError Settings := do
  let ttl ← readVariable lookup environment.sessionTtl seconds s.session.ttlSecs
  let retention ← readVariable lookup environment.retention Retention.parse s.session.retention
  let kind ← readVariable lookup environment.storageKind StorageKind.parse s.storage.kind
  return { s with
    session := { s.session with ttlSecs := ttl, retention := retention }
    token.secret := (lookup environment.tokenSecret).getD s.token.secret
    plugins := {
      directory := (lookup environment.pluginDirectory).or s.plugins.directory
      allowList := (lookup environment.allowList).elim s.plugins.allowList allowedNames }
    storage := {
      kind := kind
      path := (lookup environment.dataDirectory).getD s.storage.path } }

def overlay (s : Settings) (lookup : String → Option String) : Except SettingsError Settings := do
  let s ← s.overlaid lookup
  s.check
  return s

end SessionGateway.Settings
