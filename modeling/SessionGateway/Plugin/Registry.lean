import SessionGateway.Plugin.EntryPoint
import Std.Data.ExtTreeMap

/-! The entry points that are in use. Those of one capability are kept by the id of their module and
listed in its order; validators are listed in the order of their first registration; extensions are
kept by the path segment that they serve, and the last claim on a segment counts. -/

namespace SessionGateway

/-- The stem of the file that a module comes from. -/
abbrev PluginId := String

structure Registry where
  modules : Std.ExtTreeMap PluginId Module := ∅
  auditors : Std.ExtTreeMap PluginId Auditor := ∅
  validators : List (PluginId × Validator) := []
  extensions : Std.ExtTreeMap String (PluginId × Extension) := ∅
  authenticators : Std.ExtTreeMap PluginId Authenticator := ∅
  listeners : Std.ExtTreeMap PluginId DataListener := ∅

/-- Replaces the value of a key where it stands, or adds the pair at the end. -/
def replaceOrAppend {α : Type} (key : String) (value : α) :
    List (String × α) → List (String × α)
  | [] => [(key, value)]
  | (k, v) :: rest =>
    if k = key then (k, value) :: rest else (k, v) :: replaceOrAppend key value rest

/-- The segment that a claim is for: the text without the slashes around it, unless that is empty or
has a slash inside. -/
def claimedSegment? (text : String) : Option String :=
  let segment := Text.strip '/' text
  if segment = "" ∨ segment.toList.contains '/' then none else some segment

namespace Registry

def addModule (r : Registry) (id : PluginId) (m : Module) : Registry :=
  { r with modules := r.modules.insert id m }

def addAuditor (r : Registry) (id : PluginId) (a : Auditor) : Registry :=
  { r with auditors := r.auditors.insert id a }

def addValidator (r : Registry) (id : PluginId) (v : Validator) : Registry :=
  { r with validators := replaceOrAppend id v r.validators }

/-- Claims a path segment; a claim that is not for a segment changes nothing. -/
def addExtension (r : Registry) (claim : String) (id : PluginId) (e : Extension) : Registry :=
  match claimedSegment? claim with
  | some segment => { r with extensions := r.extensions.insert segment (id, e) }
  | none => r

def holder? (r : Registry) (claim : String) : Option PluginId :=
  (claimedSegment? claim).bind fun segment => (r.extensions[segment]?).map (·.1)

def addAuthenticator (r : Registry) (id : PluginId) (a : Authenticator) : Registry :=
  { r with authenticators := r.authenticators.insert id a }

def addListener (r : Registry) (id : PluginId) (l : DataListener) : Registry :=
  { r with listeners := r.listeners.insert id l }

/-- Registers an entry point under its capability; an extension under each segment it claims. -/
def addEntry (r : Registry) (id : PluginId) : EntryPoint → Registry
  | .audit a => r.addAuditor id a
  | .validator v => r.addValidator id v
  | .extend e => e.claimed.foldl (fun r claim => r.addExtension claim id e) r
  | .auth a => r.addAuthenticator id a
  | .dataEvent l => r.addListener id l

def hasAudit (r : Registry) : Bool :=
  !r.auditors.isEmpty

def isEmpty (r : Registry) : Bool :=
  r.modules.isEmpty && r.auditors.isEmpty && r.validators.isEmpty && r.extensions.isEmpty &&
    r.authenticators.isEmpty && r.listeners.isEmpty

end Registry

structure RegistrySummary where
  modules : List PluginId
  audit : List PluginId
  validators : List PluginId
  extend : List (String × PluginId)
  auth : List PluginId
  dataEvent : List PluginId
deriving DecidableEq

def Registry.summary (r : Registry) : RegistrySummary where
  modules := r.modules.keys
  audit := r.auditors.keys
  validators := r.validators.map (·.1)
  extend := r.extensions.toList.map fun (segment, id, _) => (segment, id)
  auth := r.authenticators.keys
  dataEvent := r.listeners.keys

end SessionGateway
