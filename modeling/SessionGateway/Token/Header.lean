import SessionGateway.Json.Record
import SessionGateway.Json.Wanted

/-! The header of a signed token: the algorithm, and fields that say where a key can be found. Only
the algorithm is used, but every field has to be well formed. -/

namespace SessionGateway.SignedToken

open Json (Slot)

def algorithms : List String :=
  ["HS256", "HS384", "HS512", "ES256", "ES384", "RS256", "RS384", "RS512", "PS256", "PS384",
    "PS512", "EdDSA"]

def keyAlgorithms : List String :=
  algorithms ++ ["RSA1_5", "RSA-OAEP", "RSA-OAEP-256"]

def curves : List String := ["P-256", "P-384", "P-521", "Ed25519"]

def labelIn? (names : List String) (v : Json) : Option String :=
  v.label?.filter (· ∈ names)

/-- Fields that a key of any type may have. -/
def hasKeyDetails (v : Json) : Bool :=
  (do
    let [use, ops, alg, kid, x5u, x5c, x5t, x5tS256] ← v.fields? ["use", "key_ops", "alg", "kid",
      "x5u", "x5c", "x5t", "x5t#S256"] | none
    for slot in [use, kid, x5u, x5t, x5tS256] do
      let _ ← slot.optional Json.text?
    for slot in [ops, x5c] do
      let _ ← slot.optional (Json.list? Json.text?)
    alg.optional (labelIn? keyAlgorithms)).isSome

/-- The fields of a key of one type: its curve, if it has one, and texts. -/
def hasKeyFields (type : String) (onCurve : Bool) (texts : List String) (v : Json) : Bool :=
  let field (name : String) (read : Json → Option String) : Bool :=
    match v.fields? [name] with
    | some [slot] => (slot.required read).isSome
    | _ => false
  field "kty" (labelIn? [type]) && (!onCurve || field "crv" (labelIn? curves)) &&
    texts.all fun name => field name Json.text?

def key? (v : Json) : Option Unit :=
  match v with
  | .obj _ =>
    if hasKeyDetails v && (hasKeyFields "EC" true ["x", "y"] v ||
        hasKeyFields "RSA" false ["n", "e"] v || hasKeyFields "oct" false ["k"] v ||
        hasKeyFields "OKP" true ["x"] v) then some ()
    else none
  | _ => none

def headerFields : List String :=
  ["typ", "alg", "cty", "jku", "jwk", "kid", "x5u", "x5c", "x5t", "x5t#S256"]

/-- The algorithm that a header names; its other fields may be null or missing. -/
def algorithm? (v : Json) : Option String := do
  let [typ, alg, cty, jku, jwk, kid, x5u, x5c, x5t, x5tS256] ← v.fields? headerFields | none
  for slot in [typ, cty, jku, kid, x5u, x5t, x5tS256] do
    let _ ← slot.optional Json.text?
  let _ ← jwk.optional key?
  let _ ← x5c.optional (Json.list? Json.text?)
  alg.required (labelIn? algorithms)

end SessionGateway.SignedToken
