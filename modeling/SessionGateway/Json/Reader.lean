import SessionGateway.Json.Basic
import SessionGateway.Bytes.Hex

/-! Reading JSON text. The grammar is strict: no comments, no trailing commas, no leading zeros, and
nothing but blanks after the document. Nesting has no limit, and a key that is given twice is kept
twice. -/

namespace SessionGateway.Json

open Text

def isSpace (c : Char) : Bool :=
  c = ' ' || c = '\t' || c = '\n' || c = '\r'

def skipSpace (cs : List Char) : List Char :=
  cs.dropWhile isSpace

def shortEscape? (c : Char) : Option Char :=
  if c = '"' ∨ c = '\\' ∨ c = '/' then some c
  else if c = 'b' then some (Char.ofNat 8)
  else if c = 'f' then some (Char.ofNat 12)
  else if c = 'n' then some '\n'
  else if c = 'r' then some '\r'
  else if c = 't' then some '\t'
  else none

def codeUnit? (a b c d : Char) : Option Nat := do
  let a ← Bytes.hexValue? a
  let b ← Bytes.hexValue? b
  let c ← Bytes.hexValue? c
  let d ← Bytes.hexValue? d
  some (((a * 16 + b) * 16 + c) * 16 + d)

def isHighHalf (n : Nat) : Bool := 0xd800 ≤ n && n < 0xdc00
def isLowHalf (n : Nat) : Bool := 0xdc00 ≤ n && n < 0xe000

/-- The code units up to the closing quote, and what follows it: code points, and the halves of
surrogate pairs that were escaped. -/
def readUnits? : List Char → Option (List Nat × List Char)
  | [] => none
  | '"' :: rest => some ([], rest)
  | '\\' :: 'u' :: a :: b :: c :: d :: rest =>
    match codeUnit? a b c d with
    | none => none
    | some n => (readUnits? rest).map fun (ns, r) => (n :: ns, r)
  | '\\' :: c :: rest =>
    match shortEscape? c with
    | none => none
    | some c => (readUnits? rest).map fun (ns, r) => (c.toNat :: ns, r)
  | c :: rest =>
    if c.toNat < 32 ∨ c = '\\' then none
    else (readUnits? rest).map fun (ns, r) => (c.toNat :: ns, r)

/-- The characters of code units in which every half has its partner. -/
def joinUnits? : List Nat → Option (List Char)
  | [] => some []
  | [n] => if isHighHalf n || isLowHalf n then none else some [Char.ofNat n]
  | n :: m :: rest =>
    if isHighHalf n then
      if isLowHalf m then
        (joinUnits? rest).map (Char.ofNat (0x10000 + (n - 0xd800) * 0x400 + (m - 0xdc00)) :: ·)
      else none
    else if isLowHalf n then none
    else (joinUnits? (m :: rest)).map (Char.ofNat n :: ·)

/-- The characters up to the closing quote, and what follows it. A text that names half of a
surrogate pair is well formed but has no characters. -/
def readText? (cs : List Char) : Option (Option (List Char) × List Char) :=
  (readUnits? cs).map fun (ns, rest) => (joinUnits? ns, rest)

def readWhole? (cs : List Char) : Option (List Char × List Char) :=
  match cs.takeWhile Char.isDigit with
  | [] => none
  | '0' :: _ :: _ => none
  | ds => some (ds, cs.dropWhile Char.isDigit)

def readPart? : List Char → Option (List Char × List Char)
  | '.' :: rest =>
    match rest.takeWhile Char.isDigit with
    | [] => none
    | ds => some ('.' :: ds, rest.dropWhile Char.isDigit)
  | rest => some ([], rest)

def readExponent? : List Char → Option (List Char × List Char)
  | c :: rest =>
    if c = 'e' ∨ c = 'E' then
      let sign := rest.take 1 |>.filter fun s => s = '+' || s = '-'
      let digits := (rest.drop sign.length).takeWhile Char.isDigit
      if digits = [] then none
      else some (c :: sign ++ digits, rest.drop (sign.length + digits.length))
    else some ([], c :: rest)
  | [] => some ([], [])

/-- Minus zero is a number but not an integer. -/
def readNumber? (cs : List Char) : Option (Json × List Char) := do
  let sign := cs.take 1 |>.filter (· = '-')
  let (whole, rest) ← readWhole? (cs.drop sign.length)
  let (part, rest) ← readPart? rest
  let (exponent, rest) ← readExponent? rest
  if part = [] ∧ exponent = [] ∧ ¬ (sign ≠ [] ∧ whole = ['0']) then
    let n : Int := decimalValue whole
    some (.int (if sign = [] then n else -n), rest)
  else some (.raw (.ofList (sign ++ whole ++ part ++ exponent)), rest)

def sourceUpTo (cs rest : List Char) : String :=
  .ofList (cs.take (cs.length - rest.length))

def textAt (cs rest : List Char) : Option (List Char) → Json
  | some t => .str (.ofList t)
  | none => .raw (sourceUpTo cs rest)

/-- The object that was read between two places, if all of its keys have characters. -/
def objectAt (cs rest : List Char) (ms : List (Option (List Char) × Json)) : Json :=
  match ms.mapM fun (k, v) => k.map fun k => (String.ofList k, v) with
  | some ms => .obj ms
  | none => .raw (sourceUpTo cs rest)

mutual

def readValue? : Nat → List Char → Option (Json × List Char)
  | 0, _ => none
  | fuel + 1, cs =>
    match skipSpace cs with
    | 'n' :: 'u' :: 'l' :: 'l' :: rest => some (.null, rest)
    | 't' :: 'r' :: 'u' :: 'e' :: rest => some (.bool true, rest)
    | 'f' :: 'a' :: 'l' :: 's' :: 'e' :: rest => some (.bool false, rest)
    | '"' :: inner =>
      (readText? inner).map fun (t, rest) => (textAt ('"' :: inner) rest t, rest)
    | '[' :: inner =>
      match skipSpace inner with
      | ']' :: rest => some (.arr [], rest)
      | inner => (readItems? fuel inner).map fun (vs, rest) => (.arr vs, rest)
    | '{' :: inner =>
      match skipSpace inner with
      | '}' :: rest => some (.obj [], rest)
      | inside =>
        (readMembers? fuel inside).map fun (ms, rest) => (objectAt ('{' :: inner) rest ms, rest)
    | rest => readNumber? rest

def readItems? : Nat → List Char → Option (List Json × List Char)
  | 0, _ => none
  | fuel + 1, cs =>
    match readValue? fuel cs with
    | none => none
    | some (v, rest) =>
      match skipSpace rest with
      | ',' :: rest => (readItems? fuel rest).map fun (vs, rest) => (v :: vs, rest)
      | ']' :: rest => some ([v], rest)
      | _ => none

def readMembers? : Nat → List Char → Option (List (Option (List Char) × Json) × List Char)
  | 0, _ => none
  | fuel + 1, cs =>
    match skipSpace cs with
    | '"' :: inner =>
      match readText? inner with
      | none => none
      | some (k, rest) =>
        match skipSpace rest with
        | ':' :: rest =>
          match readValue? fuel rest with
          | none => none
          | some (v, rest) =>
            match skipSpace rest with
            | ',' :: rest => (readMembers? fuel rest).map fun (ms, rest) => ((k, v) :: ms, rest)
            | '}' :: rest => some ([(k, v)], rest)
            | _ => none
        | _ => none
    | _ => none

end

/-- Each character opens at most two nested readings. -/
def ofChars? (cs : List Char) : Option Json :=
  match readValue? (2 * cs.length + 2) cs with
  | some (v, rest) => if skipSpace rest = [] then some v else none
  | none => none

def parse? (s : String) : Option Json :=
  ofChars? s.toList

end SessionGateway.Json
