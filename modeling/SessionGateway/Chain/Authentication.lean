import SessionGateway.Plugin.Registry

/-! Authenticators are asked in the order of their ids; the first that recognizes the login wins.
Those that fail or crash are passed over. -/

namespace SessionGateway

structure Recognized where
  module : PluginId
  seed : Seed

def Authenticator.seed? (a : Authenticator) (login : LoginRequest) : Option Seed :=
  match a.recognize login with
  | .ok seed => seed
  | _ => none

namespace LoginRequest

/-- The first match, and the authenticators that were asked. -/
def ask (login : LoginRequest) :
    List (PluginId × Authenticator) → Option Recognized × List PluginCall
  | [] => (none, [])
  | (id, a) :: rest =>
    match a.seed? login with
    | some seed => (some ⟨id, seed⟩, [.authenticate a.source login])
    | none =>
      let (found, calls) := login.ask rest
      (found, .authenticate a.source login :: calls)

def recognizedBy (login : LoginRequest) (r : Registry) : Option Recognized × List PluginCall :=
  login.ask r.authenticators.toList

end LoginRequest

end SessionGateway
