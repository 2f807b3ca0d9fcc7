import SessionGateway.Json.Reader

/-! Documents in bytes, of which only some members are wanted. The marks of JSON are ASCII, so the
structure of a document is read from its bytes, each taken as the character of its number. Keys and
wanted values have to be UTF-8; a value that is passed over may hold texts of any bytes. -/

namespace SessionGateway.Json

def byteChars (bytes : List UInt8) : List Char :=
  bytes.map fun b => Char.ofNat b.toNat

def ofUtf8? (bytes : List UInt8) : Option Json :=
  (String.fromUTF8? ⟨bytes.toArray⟩).bind parse?

def bytesUpTo (cs rest : List Char) : List UInt8 :=
  (cs.take (cs.length - rest.length)).map fun c => .ofNat c.toNat

def spelledUpTo? (cs rest : List Char) : Option Json :=
  ofUtf8? (bytesUpTo cs rest)

def readKey? (cs : List Char) : Option (String × List Char) :=
  match cs with
  | '"' :: inner =>
    match readUnits? inner with
    | none => none
    | some (_, rest) =>
      match spelledUpTo? cs rest, skipSpace rest with
      | some (.str key), ':' :: rest => some (key, rest)
      | _, _ => none
  | _ => none

def readWanted? (names : List String) : Nat → List Char → Option (List (String × Json) × List Char)
  | 0, _ => none
  | fuel + 1, cs =>
    match readKey? (skipSpace cs) with
    | none => none
    | some (key, source) =>
      match readValue? fuel source with
      | none => none
      | some (_, rest) =>
        match if key ∈ names then (spelledUpTo? source rest).map fun v => [(key, v)] else some [],
          skipSpace rest with
        | some found, ',' :: rest =>
          (readWanted? names fuel rest).map fun (ms, rest) => (found ++ ms, rest)
        | some found, '}' :: rest => some (found, rest)
        | _, _ => none

/-- The document in bytes; of an object only the wanted members are kept. -/
def ofBytesWanted? (names : List String) (bytes : List UInt8) : Option Json :=
  match skipSpace (byteChars bytes) with
  | '{' :: inner =>
    match skipSpace inner with
    | '}' :: _ => ofUtf8? bytes
    | inner =>
      match readWanted? names (2 * bytes.length + 2) inner with
      | some (ms, rest) => if skipSpace rest = [] then some (.obj ms) else none
      | none => none
  | _ => ofUtf8? bytes

end SessionGateway.Json
