import SessionGateway.Plugin.Registry

/-! Validators are asked in order until one refuses; a crash refuses too. If none does, the
permissions of the principal decide. -/

namespace SessionGateway

namespace Validator

/-- A validator that crashes refuses. -/
def admits (v : Validator) (a : Access) : Bool :=
  match v.judge a with
  | .ok verdict => verdict
  | .error _ => false

end Validator

namespace Access

def consult (a : Access) : List (PluginId × Validator) → Bool × List PluginCall
  | [] => (true, [])
  | (_, v) :: rest =>
    if v.admits a then
      let (verdict, calls) := a.consult rest
      (verdict, .validate v.source a :: calls)
    else (false, [.validate v.source a])

def permitted (a : Access) : Bool :=
  a.principal.canAccess a.role a.resource

def decide (a : Access) (r : Registry) : Bool × List PluginCall :=
  let (verdict, calls) := a.consult r.validators
  (verdict && a.permitted, calls)

end Access

end SessionGateway
