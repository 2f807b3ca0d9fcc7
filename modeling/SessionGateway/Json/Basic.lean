import SessionGateway.Text.Decimal

/-! JSON documents and their text, compact or indented. Numbers are integers; any other number is
kept as its source text, and so is a text that names half of a surrogate pair. -/

namespace SessionGateway

inductive Json where
  | null
  | bool (b : Bool)
  | int (n : Int)
  | str (s : String)
  | arr (items : List Json)
  | obj (members : List (String × Json))
  | raw (source : String)

namespace Json

instance : Inhabited Json := ⟨null⟩

open Text

def hexDigits : List Char := "0123456789abcdef".toList

def escape (c : Char) : List Char :=
  if c = '"' then ['\\', '"']
  else if c = '\\' then ['\\', '\\']
  else if c = '\n' then ['\\', 'n']
  else if c = '\r' then ['\\', 'r']
  else if c = '\t' then ['\\', 't']
  else if c.toNat = 8 then ['\\', 'b']
  else if c.toNat = 12 then ['\\', 'f']
  else if c.toNat < 32 then
    ['\\', 'u', '0', '0', hexDigits.getD (c.toNat / 16) '0', hexDigits.getD (c.toNat % 16) '0']
  else [c]

def stringChars (s : String) : List Char :=
  '"' :: s.toList.flatMap escape ++ ['"']

def intChars : Int → List Char
  | .ofNat n => decimal n
  | .negSucc n => '-' :: decimal (n + 1)

mutual

def chars : Json → List Char
  | null => "null".toList
  | bool true => "true".toList
  | bool false => "false".toList
  | int n => intChars n
  | str s => stringChars s
  | arr [] => ['[', ']']
  | arr (v :: vs) => '[' :: chars v ++ charsItems vs
  | obj [] => ['{', '}']
  | obj ((k, v) :: ms) => '{' :: stringChars k ++ ':' :: chars v ++ charsMembers ms
  | raw source => source.toList

def charsItems : List Json → List Char
  | [] => [']']
  | v :: vs => ',' :: chars v ++ charsItems vs

def charsMembers : List (String × Json) → List Char
  | [] => ['}']
  | (k, v) :: ms => ',' :: stringChars k ++ ':' :: chars v ++ charsMembers ms

end

def render (v : Json) : String :=
  .ofList v.chars

def newline (depth : Nat) : List Char :=
  '\n' :: List.replicate (2 * depth) ' '

mutual

/-- The text with one item or member a line, two blanks deeper at each level. -/
def indented (depth : Nat) : Json → List Char
  | arr [] => ['[', ']']
  | arr (v :: vs) =>
    '[' :: newline (depth + 1) ++ indented (depth + 1) v ++ indentedItems depth vs
  | obj [] => ['{', '}']
  | obj ((k, v) :: ms) =>
    '{' :: newline (depth + 1) ++ stringChars k ++ ':' :: ' ' :: indented (depth + 1) v ++
      indentedMembers depth ms
  | null => chars null
  | bool b => chars (bool b)
  | int n => chars (int n)
  | str s => chars (str s)
  | raw source => chars (raw source)

def indentedItems (depth : Nat) : List Json → List Char
  | [] => newline depth ++ [']']
  | v :: vs => ',' :: newline (depth + 1) ++ indented (depth + 1) v ++ indentedItems depth vs

def indentedMembers (depth : Nat) : List (String × Json) → List Char
  | [] => newline depth ++ ['}']
  | (k, v) :: ms =>
    ',' :: newline (depth + 1) ++ stringChars k ++ ':' :: ' ' :: indented (depth + 1) v ++
      indentedMembers depth ms

end

def renderIndented (v : Json) : String :=
  .ofList (v.indented 0)

end Json

end SessionGateway
