/-! Decimal numerals: written with a least width, read digit by digit. -/

namespace SessionGateway.Text

def decimal (n : Nat) : List Char :=
  Nat.toDigits 10 n

def decimalPadded (width n : Nat) : List Char :=
  List.replicate (width - (decimal n).length) '0' ++ decimal n

def digitValue (c : Char) : Nat :=
  c.toNat - '0'.toNat

def decimalValue (cs : List Char) : Nat :=
  cs.foldl (fun n c => 10 * n + digitValue c) 0

/-- Up to `most` digits from the front, at least one, and the rest. -/
def readDigits? (most : Nat) (cs : List Char) : Option (Nat × List Char) :=
  match (cs.take most).takeWhile Char.isDigit with
  | [] => none
  | ds => some (decimalValue ds, cs.drop ds.length)

def decimal? (s : String) : Option Nat :=
  match s.toList with
  | [] => none
  | cs => if cs.all Char.isDigit then some (decimalValue cs) else none

end SessionGateway.Text
