import SessionGateway.Plugin.Message
import SessionGateway.Plugin.Outcome
import SessionGateway.Request

/-! The code that a module provides: one entry point for each capability, each with the name of the
module it comes from, and the module's own contract. -/

namespace SessionGateway

inductive AuditEvent where
  | receive (principal : Principal) (request : Request)
  | send (elapsed : Nat) (principal : Principal) (request : Request)
  | sendError (elapsed : Nat) (principal : Principal) (request : Request) (error : String)
  | login (method : String) (status : LoginStatus) (session : Option Uuid) (user : String)

def AuditEvent.request? : AuditEvent → Option Request
  | receive _ request => some request
  | send _ _ request => some request
  | sendError _ _ request _ => some request
  | login _ _ _ _ => none

structure Auditor where
  source : String
  deliver : AuditEvent → Outcome Unit

structure Access where
  principal : Principal
  role : Role
  resource : String
  request : Request

structure Validator where
  source : String
  judge : Access → Except Crash Bool

inductive Verb where
  | get
  | put
  | post
deriving DecidableEq

namespace Verb

def ofMethod? : Method → Option Verb
  | .get => some get
  | .put => some put
  | .post => some post
  | _ => none

/-- The role needed on the extension's resource. -/
def role : Verb → Role
  | get => .read
  | put => .write
  | post => .write

end Verb

structure Extension where
  source : String
  claimed : List String
  handle : Verb → Principal → Request → Outcome Response

structure Authenticator where
  source : String
  recognize : LoginRequest → Outcome (Option Seed)

structure DataListener where
  source : String
  notify : DataEvent → Outcome Unit

inductive EntryPoint where
  | audit (entry : Auditor)
  | validator (entry : Validator)
  | extend (entry : Extension)
  | auth (entry : Authenticator)
  | dataEvent (entry : DataListener)

def EntryPoint.capability : EntryPoint → Capability
  | audit _ => .audit
  | validator _ => .validator
  | extend _ => .extend
  | auth _ => .auth
  | dataEvent _ => .dataEvent

structure Module where
  source : String
  name : String
  version : String
  capabilities : CapabilitySet
  stop : Except Crash Unit

/-- One call of plugin code, by the module that was called. -/
inductive PluginCall where
  | audit (source : String) (event : AuditEvent)
  | validate (source : String) (access : Access)
  | handle (source : String) (verb : Verb) (principal : Principal) (request : Request)
  | authenticate (source : String) (login : LoginRequest)
  | dataEvent (source : String) (event : DataEvent)
  | stop (source : String)

end SessionGateway
