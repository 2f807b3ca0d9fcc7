import SessionGateway.Bytes.Hex
import SessionGateway.Storage.Database
import SessionGateway.Text.Pieces

/-! A tree as text: a line for every entry, with its key and its value in hexadecimal digits. -/

namespace SessionGateway.Tree

def renderEntry (key value : Bytes) : String :=
  .ofList (Bytes.hex key ++ ' ' :: Bytes.hex value ++ ['\n'])

def render (t : Tree) : String :=
  .join (t.toList.map fun (key, value) => renderEntry key value)

def parseEntry? (line : String) : Option (Bytes × Bytes) := do
  let (key, value) ← Text.cutFirst? ' ' line
  some (← Bytes.ofHex? key.toList, ← Bytes.ofHex? value.toList)

def parse? (text : String) : Option Tree := do
  let lines := (Text.pieces '\n' text).filter (· ≠ "")
  return (← lines.mapM parseEntry?).foldl (fun t (key, value) => t.insert key value) ∅

end SessionGateway.Tree
