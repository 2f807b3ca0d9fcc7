import SessionGateway.Text.CharRange
import SessionGateway.Text.PrintableTable

/-! Quoted text for diagnostics: between double quotes, with a backslash escape for every character
that would not show as itself. -/

namespace SessionGateway.Text

def codePointEscape (c : Char) : List Char :=
  "\\u\x7b".toList ++ Nat.toDigits 16 c.toNat ++ "\x7d".toList

def isPrintable (c : Char) : Bool :=
  c = ' ' || !inRanges unprintableRanges c

def quoteChar (c : Char) : List Char :=
  match c with
  | '\x00' => ['\\', '0']
  | '\t' => ['\\', 't']
  | '\r' => ['\\', 'r']
  | '\n' => ['\\', 'n']
  | '"' => ['\\', '"']
  | '\\' => ['\\', '\\']
  | c => if inRanges extendingRanges c || !isPrintable c then codePointEscape c else [c]

def quote (s : String) : String :=
  .ofList ('"' :: s.toList.flatMap quoteChar ++ ['"'])

/-- A path is quoted like any text, and an apostrophe in it is escaped as well. -/
def quotePath (path : String) : String :=
  let escape c := if c = '\'' then ['\\', '\''] else quoteChar c
  .ofList ('"' :: path.toList.flatMap escape ++ ['"'])

end SessionGateway.Text
