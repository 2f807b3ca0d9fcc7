import SessionGateway.Gateway.Error
import SessionGateway.Json.Record

/-! Errors as answers: the kind of the error, its message, and for those of sessions and of the
gateway whether the client has to log in again. -/

namespace SessionGateway

namespace Scenario

def failure (kind message : String) : Json :=
  .obj [("error", .str kind), ("message", .str message)]

def answerOf {ε α : Type} (write : α → Json) (failed : ε → Json) : Except ε α → Json
  | .ok x => write x
  | .error e => failed e

end Scenario

open Scenario

def Crash.answer (c : Crash) : Json :=
  failure "Panic" (c.text.getD "other")

namespace TokenError

def kind : TokenError → String
  | creation _ => "Creation"
  | invalid _ => "Invalid"
  | expired => "Expired"

def answer (e : TokenError) : Json :=
  failure ("Token." ++ e.kind) e.message

end TokenError

def SettingsError.answer : SettingsError → Json
  | .malformed => .obj [("error", .str "Config.Parse")]
  | .unreadable path cause => failure "Config.Io" (unreadable path cause).message
  | .badVariable name message => failure "Config.Env" (badVariable name message).message
  | .invalid reason => failure "Config.Invalid" (invalid reason).message

namespace StorageError

def kind : StorageError → String
  | io _ => "IoError"
  | serialization _ => "SerializationError"
  | deserialization _ => "DeserializationError"
  | unavailable _ => "Unavailable"
  | backend _ => "BackendSpecific"

def answer (e : StorageError) : Json :=
  failure ("Storage." ++ e.kind) e.message

end StorageError

namespace PluginError

def kind : PluginError → String
  | load _ _ => "Load"
  | missingContract _ _ => "MissingContract"
  | abiMismatch _ _ => "AbiMismatch"
  | missingCapability _ _ => "MissingCapability"
  | notImplemented _ => "NotImplemented"
  | failed _ => "Failed"
  | crashed _ => "Panicked"
  | directory _ => "Io"

def answer (e : PluginError) : Json :=
  failure ("Plugin." ++ e.kind) e.message

end PluginError

namespace SessionError

def kind : SessionError → String
  | invalidToken _ => "InvalidToken"
  | notFound _ => "NotFound"
  | invalidated _ => "Invalidated"
  | expired _ => "Expired"
  | unknownPrincipal _ _ => "UnknownPrincipal"
  | lifetime _ => "InvalidTtl"
  | storeUnavailable _ => "StoreUnavailable"
  | storage _ => "Storage"

def answer (e : SessionError) : Json :=
  .obj [("error", .str ("Session." ++ e.kind)), ("message", .str e.message),
    ("auth_failure", .bool e.isAuthFailure)]

end SessionError

namespace GatewayError

def kind : GatewayError → String
  | settings _ => "Config"
  | storage _ => "Storage"
  | session e => "Session." ++ e.kind
  | plugin _ => "Plugin"
  | authenticationFailed _ => "AuthenticationFailed"
  | missingToken => "MissingToken"

def answer (e : GatewayError) : Json :=
  .obj [("error", .str ("Gateway." ++ e.kind)), ("message", .str e.message),
    ("auth_failure", .bool e.isAuthFailure)]

end GatewayError

def StartFailure.answer : StartFailure → Json
  | refused e => e.answer
  | crashed c => c.answer

end SessionGateway
