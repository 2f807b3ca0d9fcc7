import SessionGateway.Json.Wanted

/-! Attempts to read a value from bytes. A value may be well formed and yet be refused: a text that
is not UTF-8 or that names half of a surrogate pair, a number that is too large, lists that are
nested too deeply. A refused value is left where reading stopped, and lists and objects around it
are left through their closing bracket only if that comes next. -/

namespace SessionGateway.Json

open Text

/-- Whether a value was read, and what was not consumed. -/
structure Attempt where
  isRead : Bool
  rest : List Char

namespace Attempt

/-- Reads up to the closing quote. After half of a surrogate pair reading stops behind the character
that should have gone on with the pair. -/
def units : List Char → Attempt
  | [] => ⟨false, []⟩
  | '"' :: rest => ⟨true, rest⟩
  | '\\' :: 'u' :: a :: b :: c :: d :: rest =>
    match codeUnit? a b c d with
    | none => ⟨false, rest⟩
    | some n =>
      if isLowHalf n then ⟨false, rest⟩
      else if isHighHalf n then
        match rest with
        | '\\' :: 'u' :: a :: b :: c :: d :: rest =>
          if (codeUnit? a b c d).any isLowHalf then units rest else ⟨false, rest⟩
        | '\\' :: _ :: rest => ⟨false, rest⟩
        | _ :: rest => ⟨false, rest⟩
        | [] => ⟨false, []⟩
      else units rest
  | '\\' :: _ :: rest => units rest
  | _ :: rest => units rest

def text (cs : List Char) : Attempt :=
  match units cs with
  | ⟨true, rest⟩ => ⟨ByteArray.validateUTF8 ⟨(bytesUpTo cs rest).toArray⟩, rest⟩
  | stopped => stopped

/-- The largest exponent that is counted; reading stops at the digit that exceeds it. -/
def largestExponent : Nat := 2147483647

def exponentDigits (value : Nat) : List Char → Attempt
  | [] => ⟨true, []⟩
  | c :: rest =>
    if !c.isDigit then ⟨true, c :: rest⟩
    else
      let value := 10 * value + decimalValue [c]
      if largestExponent < value then ⟨false, rest⟩ else exponentDigits value rest

/-- The least number that is beyond a double of 64 bits. -/
def overflow : Nat := Nat.pow 2 1024 - Nat.pow 2 970

/-- The number `digits · 10^exponent / 10^places` is beyond a double. -/
def isTooLarge (digits places exponent : Nat) : Bool :=
  let size := (decimal digits).length + exponent
  if digits = 0 then false
  else if places + 310 < size then true
  else if size < places + 300 then false
  else overflow * Nat.pow 10 places ≤ digits * Nat.pow 10 exponent

def number (cs : List Char) : Attempt :=
  let unsigned := if cs.head? = some '-' then cs.tail else cs
  match readWhole? unsigned with
  | none => ⟨false, cs⟩
  | some (whole, rest) =>
    match readPart? rest with
    | none => ⟨false, rest⟩
    | some (part, rest) =>
      let digits := decimalValue (whole ++ part.tail)
      let places := part.tail.length
      match readExponent? rest with
      | some (_ :: mark, after) =>
        let signs := mark.takeWhile fun c => !c.isDigit
        let exponent := mark.drop signs.length
        if digits = 0 ∨ signs = ['-'] then ⟨true, after⟩
        else
          match exponentDigits 0 (rest.drop (1 + signs.length)) with
          | ⟨true, after⟩ => ⟨!isTooLarge digits places (decimalValue exponent), after⟩
          | stopped => stopped
      | _ => ⟨!isTooLarge digits places 0, rest⟩

/-- Leaves a list in which something was refused; a comma is consumed as well. -/
def leaveList (cs : List Char) : Attempt :=
  match skipSpace cs with
  | ']' :: rest => ⟨false, rest⟩
  | ',' :: rest => ⟨false, skipSpace rest⟩
  | rest => ⟨false, rest⟩

def leaveObject (cs : List Char) : Attempt :=
  match skipSpace cs with
  | '}' :: rest => ⟨false, rest⟩
  | rest => ⟨false, rest⟩

def word (cs : List Char) : Attempt :=
  match cs with
  | 'n' :: 'u' :: 'l' :: 'l' :: rest => ⟨true, rest⟩
  | 't' :: 'r' :: 'u' :: 'e' :: rest => ⟨true, rest⟩
  | 'f' :: 'a' :: 'l' :: 's' :: 'e' :: rest => ⟨true, rest⟩
  | _ => number cs

mutual

/-- A value of any kind, with room for so many brackets inside each other. -/
def value : Nat → Nat → List Char → Attempt
  | 0, _, cs => ⟨false, cs⟩
  | fuel + 1, room, cs =>
    match skipSpace cs, room with
    | '"' :: inner, _ => text inner
    | '[' :: inner, room + 1 =>
      match skipSpace inner with
      | ']' :: rest => ⟨true, rest⟩
      | inner => items fuel room inner
    | '{' :: inner, room + 1 =>
      match skipSpace inner with
      | '}' :: rest => ⟨true, rest⟩
      | inner => members fuel room inner
    | cs, _ => word cs

def items : Nat → Nat → List Char → Attempt
  | 0, _, cs => ⟨false, cs⟩
  | fuel + 1, room, cs =>
    match value fuel room cs with
    | ⟨false, rest⟩ => leaveList rest
    | ⟨true, rest⟩ =>
      match skipSpace rest with
      | ']' :: rest => ⟨true, rest⟩
      | ',' :: rest => items fuel room rest
      | rest => leaveList rest

def members : Nat → Nat → List Char → Attempt
  | 0, _, cs => ⟨false, cs⟩
  | fuel + 1, room, cs =>
    match skipSpace cs with
    | '"' :: inner =>
      match text inner with
      | ⟨false, rest⟩ => leaveObject rest
      | ⟨true, rest⟩ =>
        match skipSpace rest with
        | ':' :: source =>
          match value fuel room source with
          | ⟨false, rest⟩ => leaveObject rest
          | ⟨true, rest⟩ =>
            match skipSpace rest with
            | '}' :: rest => ⟨true, rest⟩
            | ',' :: rest => members fuel room rest
            | rest => leaveObject rest
        | rest => leaveObject rest
    | rest => leaveObject rest

end

/-- A value that is neither a list nor an object; those are refused behind their bracket. -/
def scalar (cs : List Char) : Attempt :=
  match skipSpace cs with
  | '"' :: inner => text inner
  | '[' :: inner => leaveList inner
  | '{' :: inner => leaveObject inner
  | cs => word cs

end Attempt

end SessionGateway.Json
