import Std.Data.ExtTreeMap
import SessionGateway.Settings.Basic

/-! Named trees of bytes, each ordered by its keys. Of the two kinds of database one keeps its trees
when it is closed and opened again; it also always has a tree of its own. -/

namespace SessionGateway

abbrev Bytes := List UInt8

abbrev Tree := Std.ExtTreeMap Bytes Bytes

structure Database where
  kind : StorageKind
  trees : Std.ExtTreeMap String Tree

namespace Database

def builtinTree : String := "__sled__default"

def empty (kind : StorageKind) : Database where
  kind := kind
  trees :=
    match kind with
    | .sled => (∅ : Std.ExtTreeMap String Tree).insert builtinTree ∅
    | .memory => ∅

def names (d : Database) : List String :=
  d.trees.keys

def tree (d : Database) (name : String) : Tree :=
  d.trees[name]?.getD ∅

def openTree (d : Database) (name : String) : Database :=
  { d with trees := d.trees.insert name (d.tree name) }

def setTree (d : Database) (name : String) (t : Tree) : Database :=
  { d with trees := d.trees.insert name t }

/-- Closes and opens the database again. -/
def reopen (d : Database) : Database :=
  match d.kind with
  | .sled => d
  | .memory => empty .memory

end Database

end SessionGateway
