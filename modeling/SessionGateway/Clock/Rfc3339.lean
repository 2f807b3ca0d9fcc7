import SessionGateway.Clock.Instant
import SessionGateway.Clock.Calendar
import SessionGateway.Text.Blank
import SessionGateway.Text.Decimal

/-! Times as text. A time is written in UTC, with 0, 3, 6 or 9 digits of the second's fraction, the
fewest that are exact; years outside 0 to 9999 carry a sign. Reading is more lenient: it takes any
offset, blanks around the numbers and numbers without leading zeros. -/

namespace SessionGateway.Rfc3339

open Text

/-- A year with four digits, or with a sign and at least four. -/
def yearText (year : Int) : List Char :=
  if 0 ≤ year ∧ year ≤ 9999 then decimalPadded 4 year.toNat
  else (if 0 ≤ year then '+' else '-') :: decimalPadded 4 year.natAbs

def fractionText (nanos : Nat) : List Char :=
  if nanos = 0 then []
  else if nanos % 1000000 = 0 then '.' :: decimalPadded 3 (nanos / 1000000)
  else if nanos % 1000 = 0 then '.' :: decimalPadded 6 (nanos / 1000)
  else '.' :: decimalPadded 9 nanos

def dateText (seconds : Int) : List Char :=
  let d := Date.ofDayNumber (seconds / 86400)
  yearText d.year ++ '-' :: decimalPadded 2 d.month ++ '-' :: decimalPadded 2 d.day

/-- The clock shows second 60 during a leap second. -/
def clockText (t : Instant) : List Char :=
  let s := (t.seconds % 86400).toNat
  decimalPadded 2 (s / 3600) ++ ':' :: decimalPadded 2 (s / 60 % 60) ++
    ':' :: decimalPadded 2 (s % 60 + t.nanos / 1000000000)

def chars (t : Instant) : List Char :=
  dateText t.seconds ++ 'T' :: clockText t ++ fractionText (t.nanos % 1000000000) ++ ['Z']

def render (t : Instant) : String :=
  .ofList (chars t)

def renderShort (t : Instant) : String :=
  .ofList (dateText t.seconds ++ ' ' :: clockText t)

/-- A signed year has any number of digits, an unsigned one at most four. -/
def readYear? (cs : List Char) : Option (Int × List Char) :=
  match skipBlanks cs with
  | '-' :: rest => (readDigits? rest.length rest).map fun (n, rest) => (-(n : Int), rest)
  | '+' :: rest => (readDigits? rest.length rest).map fun (n, rest) => ((n : Int), rest)
  | rest => (readDigits? 4 rest).map fun (n, rest) => ((n : Int), rest)

def readTwo? (cs : List Char) : Option (Nat × List Char) :=
  readDigits? 2 (skipBlanks cs)

def readSeparator? (sep : Char) (cs : List Char) : Option (List Char) :=
  match skipBlanks cs with
  | c :: rest => if c = sep then some rest else none
  | [] => none

/-- The first nine digits after the point count; a missing fraction is zero. -/
def readFraction? : List Char → Option (Nat × List Char)
  | '.' :: rest =>
    match (rest.take 9).takeWhile Char.isDigit with
    | [] => none
    | ds => some (decimalValue ds * Nat.pow 10 (9 - ds.length), rest.dropWhile Char.isDigit)
  | rest => some (0, rest)

def isOffsetSeparator (c : Char) : Bool :=
  c = ':' || isBlank c

def readOffsetSize? (cs : List Char) : Option (Int × List Char) :=
  match cs with
  | h₁ :: h₂ :: rest =>
    match rest.dropWhile isOffsetSeparator with
    | m₁ :: m₂ :: rest =>
      if [h₁, h₂, m₁, m₂].all Char.isDigit && digitValue m₁ < 6 then
        let minutes := decimalValue [h₁, h₂] * 60 + decimalValue [m₁, m₂]
        if minutes < 1440 then some ((minutes : Int) * 60, rest) else none
      else none
    | _ => none
  | _ => none

/-- Seconds to the east of Greenwich. -/
def readOffset? (cs : List Char) : Option (Int × List Char) :=
  match cs with
  | 'Z' :: rest | 'z' :: rest => some (0, rest)
  | '+' :: rest => readOffsetSize? rest
  | '-' :: rest | '−' :: rest => (readOffsetSize? rest).map fun (n, rest) => (-n, rest)
  | a :: b :: c :: rest =>
    if [a, b, c].map Char.toUpper = ['U', 'T', 'C'] then some (0, rest) else none
  | _ => none

def readDate? (cs : List Char) : Option (Date × List Char) := do
  let (year, cs) ← readYear? cs
  let cs ← readSeparator? '-' cs
  let (month, cs) ← readTwo? cs
  let cs ← readSeparator? '-' cs
  let (day, cs) ← readTwo? cs
  let date : Date := ⟨year, month, day⟩
  if date.IsValid then some (date, cs) else none

/-- Seconds of the day and nanoseconds; second 60 is the leap second after second 59. -/
def readClock? (cs : List Char) : Option ((Nat × Nat) × List Char) := do
  let (hour, cs) ← readTwo? cs
  let cs ← readSeparator? ':' cs
  let (minute, cs) ← readTwo? cs
  let cs ← readSeparator? ':' cs
  let (second, cs) ← readTwo? cs
  let (nanos, cs) ← readFraction? cs
  if hour ≤ 23 ∧ minute ≤ 59 ∧ second ≤ 60 then
    let leap := second / 60
    some ((hour * 3600 + minute * 60 + (second - leap), nanos + leap * 1000000000), cs)
  else none

def ofChars? (cs : List Char) : Option Instant := do
  let (date, cs) ← readDate? cs
  let cs ←
    match cs with
    | c :: cs => if c = 'T' ∨ c = 't' ∨ c = ' ' then some cs else none
    | [] => none
  let ((second, nanos), cs) ← readClock? cs
  let (offset, cs) ← readOffset? (skipBlanks cs)
  if skipBlanks cs = [] then
    let here ← Instant.ofParts? (date.dayNumber * 86400 + second) nanos
    Instant.ofParts? (here.seconds - offset) nanos
  else none

def parse? (s : String) : Option Instant :=
  ofChars? s.toList

end SessionGateway.Rfc3339
