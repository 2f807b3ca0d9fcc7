import SessionGateway.Chain.Validation

/-! A request is routed to the extension that holds its first segment, after the validators and the
permissions have allowed the verb's role on the resource of that segment. -/

namespace SessionGateway

/-- A request is not implemented if nobody holds its segment, or if the holder does not serve the
method. -/
inductive Routed where
  | handled (response : Response)
  | notImplemented
  | denied

def segmentResource (segment : String) : String :=
  "#" ++ segment

namespace Registry

def claims (r : Registry) (request : Request) : Bool :=
  request.firstSegment.any r.extensions.contains

/-- The answer of a handler; one that does not serve the verb is no error. -/
def routed : Outcome Response → Outcome Routed
  | .ok response => .ok (.handled response)
  | .error (.notImplemented _) => .ok .notImplemented
  | .error e => .error e
  | .crash c => .crash c

def route (r : Registry) (principal : Principal) (request : Request) :
    Outcome Routed × List PluginCall :=
  match request.firstSegment with
  | none => (.ok .notImplemented, [])
  | some segment =>
    match r.extensions[segment]?, Verb.ofMethod? request.method with
    | some (_, e), some verb =>
      let access : Access :=
        { principal, role := verb.role, resource := segmentResource segment, request }
      let (allowed, calls) := access.decide r
      if allowed then
        (routed (e.handle verb principal request),
          calls ++ [.handle e.source verb principal request])
      else (.ok .denied, calls)
    | _, _ => (.ok .notImplemented, [])

end Registry

end SessionGateway
