import SessionGateway.Gateway.Error

/-! Why a command fails, in the details that a failing program shows. -/

namespace SessionGateway

def StorageError.details : StorageError → String
  | io text => s!"IoError({(FileError.other text).details})"
  | serialization text => s!"SerializationError({Text.quote text})"
  | deserialization text => s!"DeserializationError({Text.quote text})"
  | unavailable text => s!"Unavailable({Text.quote text})"
  | backend text => s!"BackendSpecific({Text.quote text})"

def SettingsError.details : SettingsError → String
  | unreadable path cause =>
    s!"Io \x7b path: {Text.quotePath path}, source: {cause.details} \x7d"
  | malformed => "Parse"
  | badVariable name message =>
    s!"Env \x7b var: {Text.quote name}, message: {Text.quote message} \x7d"
  | invalid reason => s!"Invalid({Text.quote reason})"

namespace CommandLine

inductive Failure where
  | noPluginDirectory (path : String)
  | noStore (path : String)
  | noSessions (path : String)
  | settings (e : SettingsError)
  | directory (e : FileError)
  | storage (e : StorageError)
  | gateway (e : GatewayError)
  | crash (c : Crash)
deriving DecidableEq

namespace Failure

def details : Failure → String
  | noPluginDirectory path => Text.quote s!"Plugin directory not found: {path}"
  | noStore path => Text.quote s!"Session store not found at {path}"
  | noSessions path =>
    Text.quote s!"No session records in {StorageKind.sled.label} store at {path}"
  | settings e => e.details
  | directory e => e.details
  | storage e => e.details
  | gateway (.settings e) => s!"Config({e.details})"
  | gateway (.storage e) => s!"Storage({e.details})"
  | gateway e => Text.quote e.message
  | crash c => c.reason

def message : Failure → String
  | crash c => s!"thread 'main' panicked:\n{c.reason}\n"
  | e => s!"Error: {e.details}\n"

def exitCode : Failure → UInt32
  | crash _ => 101
  | _ => 1

def ofStart : StartFailure → Failure
  | .refused e => gateway e
  | .crashed c => crash c

end Failure

end CommandLine

end SessionGateway
