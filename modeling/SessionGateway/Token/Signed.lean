import SessionGateway.Token.Claims
import SessionGateway.Token.Header
import SessionGateway.Token.RegisteredClaims
import SessionGateway.Bytes.Base64Url
import SessionGateway.Bytes.Hmac
import SessionGateway.Text.Pieces

/-! Signed tokens: header, claims and signature in URL-safe base64 with points between them. The
signature is checked before the claims are read; the only algorithm accepted is HS256. -/

namespace SessionGateway.SignedToken

inductive Fault where
  | shape
  | base64
  | json
  | algorithm
  | signature
  | missingExpiry
  | audience
deriving DecidableEq

def Fault.text : Fault → String
  | shape => "InvalidToken"
  | base64 => "Base64 error"
  | json => "JSON error"
  | algorithm => "InvalidAlgorithm"
  | signature => "InvalidSignature"
  | missingExpiry => "Missing required claim: exp"
  | audience => "InvalidAudience"

def encodeText (s : String) : String :=
  .ofList (Bytes.Base64Url.encode s.toUTF8.toList)

def headerText : String :=
  (Json.obj [("typ", .str "JWT"), ("alg", .str "HS256")]).render

/-- What a message is signed with: a function of the secret and the message. -/
abbrev Mac := List UInt8 → List UInt8 → List UInt8

def signature (mac : Mac) (secret : List UInt8) (message : String) : String :=
  .ofList (Bytes.Base64Url.encode (mac secret message.toUTF8.toList))

def issueWith (mac : Mac) (secret : List UInt8) (claims : Claims) : String :=
  let message := encodeText headerText ++ "." ++ encodeText claims.toJson.render
  message ++ "." ++ signature mac secret message

def partBytes (part : String) : Except Fault (List UInt8) :=
  match Bytes.Base64Url.decode? part.toList with
  | some bytes => .ok bytes
  | none => .error .base64

def headerAlgorithm (part : String) : Except Fault String :=
  match partBytes part with
  | .error f => .error f
  | .ok bytes =>
    match (Json.ofBytesWanted? headerFields bytes).bind algorithm? with
    | some name => .ok name
    | none => .error .json

/-- The claims of a token, and whether an audience is named beside them. -/
def payloadClaims (part : String) : Except Fault (Claims × Bool) :=
  match partBytes part with
  | .error f => .error f
  | .ok bytes =>
    match (Json.ofBytesWanted? Claims.names bytes).bind Claims.ofJson?, audience? bytes with
    | some claims, some named => .ok (claims, named)
    | _, _ => .error .json

def validateWith (mac : Mac) (secret : List UInt8) (wall : Int) (token : String) :
    Except TokenError Claims :=
  let fault (f : Fault) : Except TokenError Claims := .error (.invalid f.text)
  match Text.cutLast? '.' token with
  | none => fault .shape
  | some (message, signed) =>
    match Text.cutLast? '.' message with
    | none => fault .shape
    | some (header, payload) =>
      match headerAlgorithm header with
      | .error f => fault f
      | .ok name =>
        if name ≠ "HS256" then fault .algorithm
        else if signed ≠ signature mac secret message then fault .signature
        else
          match payloadClaims payload with
          | .error f => fault f
          | .ok (claims, named) =>
            if claims.exp.toInt < 0 then fault .missingExpiry
            else if claims.exp.toInt < wall then .error .expired
            else if named then fault .audience
            else .ok claims

def issuerWith (mac : Mac) (secret : List UInt8) (lifetime : Span) (wall : Int) : TokenIssuer where
  issue claims := .ok (issueWith mac secret claims)
  validate := validateWith mac secret wall
  lifetime := lifetime

def issue : List UInt8 → Claims → String :=
  issueWith Bytes.Hmac.sha256

def validate : List UInt8 → Int → String → Except TokenError Claims :=
  validateWith Bytes.Hmac.sha256

def issuer (secret : String) : Span → Int → TokenIssuer :=
  issuerWith Bytes.Hmac.sha256 secret.toUTF8.toList

end SessionGateway.SignedToken
