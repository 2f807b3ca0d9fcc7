import SessionGateway.Settings.Basic
import SessionGateway.Session.Error
import SessionGateway.Plugin.Outcome

/-! Why the gateway refuses. -/

namespace SessionGateway

inductive GatewayError where
  | settings (e : SettingsError)
  | storage (e : StorageError)
  | session (e : SessionError)
  | plugin (e : PluginError)
  | authenticationFailed (user : String)
  | missingToken
deriving DecidableEq

namespace GatewayError

def message : GatewayError → String
  | settings e => s!"Configuration error: {e.message}"
  | storage e => s!"Storage error: {e.message}"
  | session e => s!"Session error: {e.message}"
  | plugin e => s!"Plugin error: {e.message}"
  | authenticationFailed user => s!"Authentication failed for user '{user}'"
  | missingToken => "Missing bearer token"

def isAuthFailure : GatewayError → Bool
  | authenticationFailed _ | missingToken => true
  | session e => e.isAuthFailure
  | settings _ | storage _ | plugin _ => false

end GatewayError

inductive StartFailure where
  | refused (e : GatewayError)
  | crashed (c : Crash)
deriving DecidableEq

end SessionGateway
