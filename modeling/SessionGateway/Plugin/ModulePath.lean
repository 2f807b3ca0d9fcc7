import SessionGateway.Text.Pieces

/-! Paths of module files. Two texts name the same file if their components agree; empty components,
and dots other than the first component, do not count. -/

namespace SessionGateway

inductive PathComponent where
  | root
  | here
  | parent
  | name (text : String)
deriving DecidableEq

namespace PathComponent

/-- The order of components: the root, the dot, two dots, then names. -/
def rank : PathComponent → Nat
  | root => 0
  | here => 1
  | parent => 2
  | name _ => 3

def text : PathComponent → String
  | name t => t
  | _ => ""

instance : Ord PathComponent :=
  ⟨compareLex (compareOn rank) (compareOn text)⟩

instance : Std.TransOrd PathComponent :=
  inferInstanceAs (Std.TransCmp (compareLex (compareOn rank) (compareOn text)))

instance : Std.LawfulEqOrd PathComponent where
  compare_self {a} := @Std.ReflCmp.compare_self _ (compareLex (compareOn rank) (compareOn text)) _ a
  eq_of_compare {a b} h := by
    have both := Ordering.then_eq_eq.1 (h : (compareOn rank a b).then (compareOn text a b) = .eq)
    have ranks : a.rank = b.rank :=
      Std.LawfulEqCmp.eq_of_compare (both.1 : compare a.rank b.rank = .eq)
    have texts : a.text = b.text :=
      Std.LawfulEqCmp.eq_of_compare (both.2 : compare a.text b.text = .eq)
    cases a <;> cases b <;> simp_all [rank, text]

end PathComponent

abbrev ModulePath := List PathComponent

namespace ModulePath

def ofPiece (piece : String) : List PathComponent :=
  if piece = "" ∨ piece = "." then []
  else if piece = ".." then [.parent]
  else [.name piece]

def ofText (path : String) : ModulePath :=
  match Text.pieces '/' path with
  | [] => []
  | first :: rest =>
    (if path.toList.head? = some '/' then [.root]
      else if first = "." then [.here]
      else ofPiece first) ++ rest.flatMap ofPiece

/-- The name without what follows its last point, unless nothing stands before that point. -/
def stemOfName (name : String) : String :=
  match Text.cutLast? '.' name with
  | some (before, _) => if before = "" then name else before
  | none => name

/-- The stem of the last component, which has to be a name. -/
def stem? (path : String) : Option String :=
  match (ofText path).getLast? with
  | some (.name text) => some (stemOfName text)
  | _ => none

end ModulePath

end SessionGateway
