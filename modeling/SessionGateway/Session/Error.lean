import SessionGateway.Token.Claims
import SessionGateway.Storage.Error

/-! Why a session cannot be used. -/

namespace SessionGateway

inductive SessionError where
  | invalidToken (e : TokenError)
  | notFound (uuid : Uuid)
  | invalidated (uuid : Uuid)
  | expired (uuid : Uuid)
  | unknownPrincipal (uuid : Uuid) (user : String)
  | lifetime (reason : String)
  | storeUnavailable (reason : String)
  | storage (e : StorageError)
deriving DecidableEq

namespace SessionError

def message : SessionError → String
  | invalidToken e => s!"Invalid token: {e.message}"
  | notFound uuid => s!"Session not found: {uuid.render}"
  | invalidated uuid => s!"Session invalidated: {uuid.render}"
  | expired uuid => s!"Session expired: {uuid.render}"
  | unknownPrincipal uuid user =>
    s!"No principal available for user '{user}' of session {uuid.render}"
  | lifetime reason => s!"Session lifetime out of range: {reason}"
  | storeUnavailable reason => s!"Session store unavailable: {reason}"
  | storage e => s!"Storage error: {e.message}"

/-- The client has to log in again; nothing is wrong with the gateway. -/
def isAuthFailure : SessionError → Bool
  | invalidToken _ | notFound _ | invalidated _ | expired _ | unknownPrincipal _ _ => true
  | lifetime _ | storeUnavailable _ | storage _ => false

end SessionError

end SessionGateway
