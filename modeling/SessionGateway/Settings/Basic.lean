import SessionGateway.Clock.Span
import SessionGateway.FileError
import SessionGateway.Text.Lowercase
import SessionGateway.Text.Blank

/-! Settings of a gateway: session lifetimes, bearer tokens, plugins, storage and audit. Every
section has defaults. `check` says which settings are usable: lifetimes and intervals stay within
ten years, the write queue holds something, and the token secret is not empty. -/

namespace SessionGateway

/-- An invalidated session is deleted from the store, or it stays there with its flag. -/
inductive Retention where
  | hardDelete
  | softInvalidate
deriving DecidableEq

namespace Retention

def label : Retention → String
  | hardDelete => "hard_delete"
  | softInvalidate => "soft_invalidate"

def parse (s : String) : Except String Retention :=
  let word := Text.lowercase (Text.trim s)
  if word ∈ ["delete", "hard_delete", "hard-delete"] then .ok hardDelete
  else if word ∈ ["invalidate", "soft_invalidate", "soft-invalidate"] then .ok softInvalidate
  else .error s!"Unknown retention policy: {word}. Valid options: delete, invalidate"

end Retention

inductive StorageKind where
  | sled
  | memory
deriving DecidableEq

namespace StorageKind

def label : StorageKind → String
  | sled => "sled"
  | memory => "memory"

/-- The complaint repeats the text as it was given. -/
def parse (s : String) : Except String StorageKind :=
  let word := Text.lowercase (Text.trim s)
  if word = "sled" then .ok sled
  else if word = "memory" then .ok memory
  else .error s!"Unknown storage type: {s}. Valid options: sled, memory"

end StorageKind

def longestSeconds : Nat := 10 * 365 * 24 * 60 * 60

/-- A length of time that never exceeds ten years. -/
def boundedSeconds (n : UInt64) : Span :=
  .ofSeconds (min n.toNat longestSeconds)

structure SessionSettings where
  ttlSecs : UInt64 := 21600
  retention : Retention := .hardDelete
  sweepIntervalSecs : UInt64 := 60
  sweepGraceSecs : UInt64 := 300
  queueCapacity : UInt64 := 1024
  drainTickSecs : UInt64 := 30
deriving DecidableEq

namespace SessionSettings

def ttl (s : SessionSettings) : Span := boundedSeconds s.ttlSecs

def grace (s : SessionSettings) : Span := boundedSeconds s.sweepGraceSecs

end SessionSettings

def developmentSecret : String := "restgate-development-secret-change-me"

structure TokenSettings where
  secret : String := developmentSecret
  lifetimeSecs : UInt64 := 2592000
deriving DecidableEq

namespace TokenSettings

def lifetime (s : TokenSettings) : Span := boundedSeconds s.lifetimeSecs

def usesDevelopmentSecret (s : TokenSettings) : Bool := s.secret == developmentSecret

end TokenSettings

structure PluginSettings where
  directory : Option String := none
  allowList : Option (List String) := none
deriving DecidableEq

def PluginSettings.allows (s : PluginSettings) (name : String) : Bool :=
  s.allowList.all (·.contains name)

structure StorageSettings where
  kind : StorageKind := .sled
  path : String := "./restgate-data"
deriving DecidableEq

structure AuditSettings where
  excludedEndpoints : List String := ["health", "version"]
  detached : Bool := true
deriving DecidableEq

structure Settings where
  session : SessionSettings := {}
  token : TokenSettings := {}
  plugins : PluginSettings := {}
  storage : StorageSettings := {}
  audit : AuditSettings := {}
deriving DecidableEq

inductive SettingsError where
  | unreadable (path : String) (cause : FileError)
  | malformed
  | badVariable (name message : String)
  | invalid (reason : String)
deriving DecidableEq

namespace SettingsError

def message : SettingsError → String
  | unreadable path cause => s!"Failed to read config file {path}: {cause.message}"
  | malformed => "Failed to parse config"
  | badVariable name message => s!"Invalid value for {name}: {message}"
  | invalid reason => s!"Invalid configuration: {reason}"

end SettingsError

namespace Settings

def checkSeconds (name : String) (least : Nat) (n : UInt64) : Except SettingsError Unit :=
  if n.toNat < least ∨ longestSeconds < n.toNat then
    .error (.invalid
      s!"{name} must be between {least} and {longestSeconds} seconds, got {n.toNat}")
  else .ok ()

def check (s : Settings) : Except SettingsError Unit := do
  checkSeconds "session.ttl_secs" 1 s.session.ttlSecs
  checkSeconds "session.sweep_grace_secs" 0 s.session.sweepGraceSecs
  checkSeconds "session.sweep_interval_secs" 1 s.session.sweepIntervalSecs
  checkSeconds "session.drain_tick_secs" 1 s.session.drainTickSecs
  checkSeconds "token.lifetime_secs" 1 s.token.lifetimeSecs
  if s.session.queueCapacity = 0 then
    .error (.invalid "session.queue_capacity must be > 0")
  else if s.token.secret = "" then
    .error (.invalid "token.secret must not be empty")
  else .ok ()

end Settings

end SessionGateway
