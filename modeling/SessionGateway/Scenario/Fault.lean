import SessionGateway.Scenario.Failure
import SessionGateway.Scenario.Reading

/-! Errors that a scenario names: a family, a kind, and what the error is to say. -/

namespace SessionGateway.Scenario

def storageError (kind message : String) : Reading StorageError :=
  match kind with
  | "io" => .ok (.io message)
  | "serialization" => .ok (.serialization message)
  | "deserialization" => .ok (.deserialization message)
  | "unavailable" => .ok (.unavailable message)
  | "backend" => .ok (.backend message)
  | other => .error other

def sessionFault (v : Json) (kind message : String) : Reading SessionError :=
  match kind with
  | "not_found" => do return .notFound (← uuid v "uuid")
  | "invalidated" => do return .invalidated (← uuid v "uuid")
  | "expired" => do return .expired (← uuid v "uuid")
  | "unknown_principal" => do return .unknownPrincipal (← uuid v "uuid") message
  | "ttl" => .ok (.lifetime message)
  | "unavailable" => .ok (.storeUnavailable message)
  | "creation" => .ok (.invalidToken (.creation message))
  | "invalid" => .ok (.invalidToken (.invalid message))
  | "token_expired" => .ok (.invalidToken .expired)
  | other => (storageError other message).map .storage

def pluginFault (v : Json) (kind message : String) : Reading PluginError := do
  let path ← textOr v "path" ""
  match kind with
  | "load" => return .load path message
  | "contract" => return .missingContract path message
  | "abi" => return .abiMismatch path (.ofNat ((← count? v "found").getD 0))
  | "capability" =>
    let label ← text v "capability"
    return .missingCapability message (← need "capability" (Capability.parse label).toOption)
  | "not_implemented" => return .notImplemented message
  | "failed" => return .failed message
  | "panicked" => return .crashed message
  | "io" => return .directory message
  | other => throw other

def settingsFault (v : Json) (kind message : String) : Reading SettingsError := do
  match kind with
  | "io" => return .unreadable (← textOr v "path" "") (.other message)
  | "env" => return .badVariable (← textOr v "var" "") message
  | "invalid" => return .invalid message
  | other => throw other

def gatewayError (v : Json) : Reading GatewayError := do
  let message ← textOr v "message" ""
  match Text.cutFirst? '.' (← text v "kind") with
  | some ("storage", kind) => return .storage (← storageError kind message)
  | some ("session", kind) => return .session (← sessionFault v kind message)
  | some ("plugin", kind) => return .plugin (← pluginFault v kind message)
  | some ("config", kind) => return .settings (← settingsFault v kind message)
  | some ("gateway", "auth") => return .authenticationFailed message
  | some ("gateway", "missing") => return .missingToken
  | _ => throw "kind"

end SessionGateway.Scenario
