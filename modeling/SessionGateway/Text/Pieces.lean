import SessionGateway.Text.Blank

/-! Texts cut at a separator character. -/

namespace SessionGateway.Text

/-- The pieces between the separators; there is one more of them than separators. -/
def pieces (sep : Char) (s : String) : List String :=
  (s.toList.splitOn sep).map .ofList

/-- The texts before and after the first separator. -/
def cutFirst? (sep : Char) (s : String) : Option (String × String) :=
  match s.toList.dropWhile (· != sep) with
  | [] => none
  | _ :: rest => some (.ofList (s.toList.takeWhile (· != sep)), .ofList rest)

def cutLast? (sep : Char) (s : String) : Option (String × String) :=
  match s.toList.reverse.dropWhile (· != sep) with
  | [] => none
  | _ :: front =>
    some (.ofList front.reverse, .ofList (s.toList.reverse.takeWhile (· != sep)).reverse)

/-- Removes every copy of `c` from both ends. -/
def strip (c : Char) (s : String) : String :=
  .ofList ((s.toList.dropWhile (· == c)).reverse.dropWhile (· == c)).reverse

/-- The pieces of a comma-separated list, without blanks around them and without empty ones. -/
def commaList (s : String) : List String :=
  ((pieces ',' s).map trim).filter (· ≠ "")

end SessionGateway.Text
