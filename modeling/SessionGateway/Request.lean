import Std.Data.ExtTreeMap
import SessionGateway.Identity.Principal
import SessionGateway.Text.Pieces
import SessionGateway.Uuid

/-! Requests as the gateway sees them: a method, a path below the root, and headers whose names are
kept in lower case. A path is routed by its first segment; the rest is the sub-path. -/

namespace SessionGateway

open Json (Slot)

inductive Method where
  | get
  | put
  | post
  | delete
  | patch
  | other (name : String)
deriving DecidableEq

namespace Method

def text : Method → String
  | get => "GET"
  | put => "PUT"
  | post => "POST"
  | delete => "DELETE"
  | patch => "PATCH"
  | other name => name

/-- The five known methods in any case; any other name is kept in capitals. -/
def ofText (s : String) : Method :=
  match Text.asciiUpper s with
  | "GET" => get
  | "PUT" => put
  | "POST" => post
  | "DELETE" => delete
  | "PATCH" => patch
  | name => other name

def toJson : Method → Json
  | get => .str "Get"
  | put => .str "Put"
  | post => .str "Post"
  | delete => .str "Delete"
  | patch => .str "Patch"
  | other name => .obj [("Other", .str name)]

def ofJson? (v : Json) : Option Method :=
  match v.variant? with
  | some ("Other", some (.str name)) => some (other name)
  | _ => v.label?.bind fun name =>
    ([("Get", get), ("Put", put), ("Post", post), ("Delete", delete), ("Patch", patch)] :
      List (String × Method)).lookup name

end Method

structure Request where
  method : Method := .get
  path : String := ""
  query : Option String := none
  headers : Std.ExtTreeMap String String := ∅
  body : List UInt8 := []
  remoteAddress : Option String := none
  receivedAt : Instant := .epoch

namespace Request

def isSlash (c : Char) : Bool := c == '/'

/-- The characters between the leading slashes and the next one. -/
def segmentChars (path : List Char) : List Char :=
  (path.dropWhile isSlash).takeWhile (!isSlash ·)

/-- The characters behind the slash that ends the first segment. -/
def restChars (path : List Char) : List Char :=
  ((path.dropWhile isSlash).dropWhile (!isSlash ·)).drop 1

def firstSegment (r : Request) : Option String :=
  match segmentChars r.path.toList with
  | [] => none
  | cs => some (.ofList cs)

def subPath (r : Request) : String :=
  .ofList (restChars r.path.toList)

def withHeader (r : Request) (name value : String) : Request :=
  { r with headers := r.headers.insert (Text.asciiLower name) value }

def header (r : Request) (name : String) : Option String :=
  r.headers[Text.asciiLower name]?

/-- What follows the word bearer in an authorization value, unless it is blank. -/
def bearerOf (value : String) : Option String :=
  match Text.cutFirst? ' ' value with
  | some (scheme, token) =>
    if Text.asciiLower scheme = "bearer" ∧ Text.trim token ≠ "" then some (Text.trim token)
    else none
  | none => none

def bearerToken (r : Request) : Option String :=
  (r.header "authorization").bind bearerOf

def toJson (r : Request) : Json :=
  .obj [("method", r.method.toJson), ("path", .str r.path), ("query", .ofOption .str r.query),
    ("headers", .obj (r.headers.toList.map fun (name, value) => (name, .str value))),
    ("body", .ofBytes r.body), ("remote_addr", .ofOption .str r.remoteAddress),
    ("received_at", r.receivedAt.toJson)]

/-- Header names are taken as they are; of a name that is given twice the last value counts. -/
def headersOfJson? : Json → Option (Std.ExtTreeMap String String)
  | .obj ms => ms.foldlM (fun headers (name, v) => v.text?.map (headers.insert name)) ∅
  | _ => none

def ofJson? (v : Json) : Option Request := do
  let [method, path, query, headers, body, remoteAddress, receivedAt] ← v.fields? ["method",
    "path", "query", "headers", "body", "remote_addr", "received_at"] | none
  some {
    method := ← method.required Method.ofJson?
    path := ← path.required Json.text?
    query := ← query.optional Json.text?
    headers := ← headers.required headersOfJson?
    body := ← body.withDefault [] Json.bytes?
    remoteAddress := ← remoteAddress.optional Json.text?
    receivedAt := ← receivedAt.required Instant.ofJson? }

end Request

structure RequestContext where
  principal : Principal
  session : Option Uuid := none
  request : Request

end SessionGateway
