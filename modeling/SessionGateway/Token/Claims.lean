import SessionGateway.Identity.Principal
import SessionGateway.Uuid

/-! What a bearer token says: the session, its user, and when the token was issued and expires, in
seconds since 1970. -/

namespace SessionGateway

open Json (Slot)

def Uuid.toJson (u : Uuid) : Json := .str u.render

def Uuid.ofJson? (v : Json) : Option Uuid := v.text?.bind Uuid.parse?

def Json.ofInt64 (n : Int64) : Json := .int n.toInt

def Json.int64? (v : Json) : Option Int64 :=
  (v.int? Int64.minValue.toInt Int64.maxValue.toInt).map Int64.ofInt

structure Claims where
  sid : Uuid
  sub : String
  iat : Int64
  exp : Int64
deriving DecidableEq

namespace Claims

/-- The claims of a token issued at `now`; a lifetime that leaves the calendar never ends. -/
def issued (sid : Uuid) (user : String) (now : Instant) (lifetime : Span) : Claims where
  sid := sid
  sub := user
  iat := .ofInt now.seconds
  exp := (now.add? lifetime).elim Int64.maxValue fun t => .ofInt t.seconds

def toJson (c : Claims) : Json :=
  .obj [("sid", c.sid.toJson), ("sub", .str c.sub), ("iat", .ofInt64 c.iat),
    ("exp", .ofInt64 c.exp)]

def names : List String := ["sid", "sub", "iat", "exp"]

def ofJson? (v : Json) : Option Claims := do
  let [sid, sub, iat, exp] ← v.fields? names | none
  some {
    sid := ← sid.required Uuid.ofJson?
    sub := ← sub.required Json.text?
    iat := ← iat.required Json.int64?
    exp := ← exp.required Json.int64? }

end Claims

inductive TokenError where
  | creation (reason : String)
  | invalid (reason : String)
  | expired
deriving DecidableEq

def TokenError.message : TokenError → String
  | creation reason => s!"Token creation failed: {reason}"
  | invalid reason => s!"Invalid token: {reason}"
  | expired => "Token expired"

/-- Something that turns claims into tokens and back, and says how long a token lasts. -/
structure TokenIssuer where
  issue : Claims → Except TokenError String
  validate : String → Except TokenError Claims
  lifetime : Span

end SessionGateway
