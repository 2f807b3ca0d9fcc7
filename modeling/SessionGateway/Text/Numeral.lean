import SessionGateway.Text.Decimal

/-! Unsigned 64-bit numerals as people type them: digits with an optional plus sign. Of several
faults the leftmost is reported. -/

namespace SessionGateway.Text

inductive NumeralFault where
  | empty
  | invalidDigit
  | tooLarge
deriving DecidableEq

def NumeralFault.message : NumeralFault → String
  | empty => "cannot parse integer from empty string"
  | invalidDigit => "invalid digit found in string"
  | tooLarge => "number too large to fit in target type"

def continueNumeral (n : UInt64) : List Char → Except NumeralFault UInt64
  | [] => .ok n
  | c :: cs =>
    if c.isDigit then
      let next := 10 * n.toNat + digitValue c
      if next < 2 ^ 64 then continueNumeral (UInt64.ofNat next) cs else .error .tooLarge
    else .error .invalidDigit

def numeral (s : String) : Except NumeralFault UInt64 :=
  match s.toList with
  | [] => .error .empty
  | ['+'] => .error .invalidDigit
  | '+' :: cs => continueNumeral 0 cs
  | cs => continueNumeral 0 cs

end SessionGateway.Text
