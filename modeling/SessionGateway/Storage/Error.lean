/-! Why storage refuses. -/

namespace SessionGateway

inductive StorageError where
  | io (message : String)
  | serialization (message : String)
  | deserialization (message : String)
  | unavailable (message : String)
  | backend (message : String)
deriving DecidableEq

def StorageError.message : StorageError → String
  | io message => s!"I/O error: {message}"
  | serialization message => s!"Serialization error: {message}"
  | deserialization message => s!"Deserialization error: {message}"
  | unavailable message => s!"Storage backend unavailable: {message}"
  | backend message => s!"Storage driver error: {message}"

end SessionGateway
