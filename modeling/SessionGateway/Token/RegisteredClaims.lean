import SessionGateway.Json.Attempt
import SessionGateway.Json.Record

/-! The claims that every token can have beside those of the session. They are read on their own and
mostly ignored: a value of the wrong kind is passed over, as long as the document can be read on
from the place where reading it stopped. -/

namespace SessionGateway.SignedToken

def deepest : Nat := 126

def registered : List String := ["exp", "nbf", "sub", "iss", "aud"]

/-- The end of a member's value, and the value if it could be read. -/
def readClaim (name : String) (source : List Char) : Option Json × List Char :=
  let attempt : Json.Attempt :=
    if name = "nbf" then .scalar source
    else if name ∈ registered then .value (2 * source.length + 2) deepest source
    else
      match Json.readValue? (2 * source.length + 2) source with
      | some (_, rest) => ⟨true, rest⟩
      | none => ⟨false, source⟩
  (if attempt.isRead then Json.spelledUpTo? source attempt.rest else none, attempt.rest)

/-- The members up to the closing brace, after which nothing may follow. -/
def readClaims? : Nat → List Char → Option (List (String × Option Json))
  | 0, _ => none
  | fuel + 1, cs =>
    match Json.readKey? (Json.skipSpace cs) with
    | none => none
    | some (name, source) =>
      let (v, rest) := readClaim name source
      match Json.skipSpace rest with
      | ',' :: rest => (readClaims? fuel rest).map ((name, v) :: ·)
      | '}' :: rest => if Json.skipSpace rest = [] then some [(name, v)] else none
      | _ => none

/-- An audience is a text or a list of texts; a value of any other kind names none. -/
def namesAudience : Json → Bool
  | .str _ => true
  | .arr vs => vs.all fun v => v.text?.isSome
  | _ => false

/-- Whether an audience is named in a document; none if it cannot be read, or if it gives one of the
claims twice. -/
def audience? (bytes : List UInt8) : Option Bool :=
  match Json.skipSpace (Json.byteChars bytes) with
  | '{' :: inner =>
    match readClaims? (bytes.length + 1) inner with
    | none => none
    | some claims =>
      if registered.all fun name => (claims.filter (·.1 = name)).length ≤ 1 then
        some ((claims.lookup "aud").join.any namesAudience)
      else none
  | _ => none

end SessionGateway.SignedToken
