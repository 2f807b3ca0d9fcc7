import SessionGateway.Text.Ligature

/-! How many columns of a terminal a text takes. The width is the sum of the widths of the
characters, except where several are drawn as one: pictures that are joined or that have a tone of
skin, flags, selectors that turn a letter into a picture or back, ligatures, and a line feed behind
a carriage return. A text is read from its end, since what follows a character decides. -/

namespace SessionGateway.Text

/-- What the text behind a character opens with. -/
inductive Opening where
  | other
  | lineFeed
  | ligature (last : Ligature)
  | tone
  | flagHalf
  | flagHalves
  | picture
  | joined
  | joinedKeycap
  | joinedHalves (count : Nat)
  | joinedTags (letters digits : Nat)
deriving DecidableEq

structure Follower where
  opening : Opening := .other
  joiner : Bool := false
  asPicture : Bool := false
  asLetter : Bool := false
deriving DecidableEq

namespace Follower

def pictureSelector : Char := Char.ofNat 0xfe0f
def letterSelector : Char := Char.ofNat 0xfe0e

def isFlagHalf (c : Char) : Bool := inRanges [(0x1f1e6, 0x1f1ff)] c
def isTone (c : Char) : Bool := inRanges [(0x1f3fb, 0x1f3ff)] c
def isTagLetter (c : Char) : Bool := inRanges [(0xe0061, 0xe007a)] c
def isTagDigit (c : Char) : Bool := inRanges [(0xe0030, 0xe0039)] c

/-- What a character opens that nothing behind it changes. -/
def ofChar (c : Char) : Follower where
  opening :=
    match Ligature.endedBy? c with
    | some l => .ligature l
    | none =>
      if isFlagHalf c then .flagHalf
      else if isTone c then .tone
      else if inRanges pictureRanges c then .picture
      else .other

/-- A ligature stays open behind a selector. -/
def isLigature (f : Follower) : Bool :=
  match f.opening with
  | .ligature _ => true
  | _ => false

def isJoined (f : Follower) : Bool :=
  f.opening = .joined || f.opening = .joinedKeycap

def selectPicture (f : Follower) : Follower :=
  if f.isLigature || f.isJoined then { f with asPicture := true } else { asPicture := true }

def selectLetter (f : Follower) : Follower :=
  if f.isLigature then { f with asLetter := true } else { asLetter := true }

/-- A selector for a picture that finds no character to change. -/
def dropPicture (f : Follower) : Follower :=
  if f.asPicture then if f.isLigature then { f with asPicture := false } else {} else f

/-- The character joins the pictures behind it. -/
def joinPicture? (o : Opening) (c : Char) : Option (Int × Opening) :=
  match o with
  | .tone => if inRanges tonedRanges c then some (0, .picture) else toJoiner
  | .picture => toJoiner
  | .flagHalf => if isFlagHalf c then some (1, .flagHalves) else none
  | .flagHalves => if isFlagHalf c then some (1, .flagHalves) else toJoiner
  | .joined =>
    if c.toNat = 0x20e3 then some (0, .joinedKeycap)
    else if isFlagHalf c then some (1, .joinedHalves 1)
    else if isTone c then some (0, .tone)
    else if c.toNat = 0xe007f then some (0, .joinedTags 0 0)
    else if inRanges pictureRanges c then some (0, .picture)
    else none
  | .joinedHalves n =>
    if isFlagHalf c then some (if n % 2 = 1 then -1 else 3, .joinedHalves (n + 1))
    else if 1 < n then toJoiner
    else none
  | .joinedTags letters digits =>
    if isTagLetter c ∧ letters < 6 ∧ digits = 0 then some (0, .joinedTags (letters + 1) 0)
    else if isTagDigit c ∧ letters < 5 ∧ digits < 3 then some (0, .joinedTags letters (digits + 1))
    else if c.toNat = 0x1f3f4 ∧ (digits = 3 ∨ digits = 0 ∧ 3 ≤ letters) then some (0, .picture)
    else none
  | _ => none
where
  toJoiner : Option (Int × Opening) := if c = zeroWidthJoiner then some (0, .joined) else none

/-- The character is drawn as one with what follows it. -/
def join? (f : Follower) (c : Char) : Option (Int × Follower) :=
  match f.opening with
  | .ligature last =>
    if last ≠ .alef ∧ c = zeroWidthJoiner then some (0, { f with joiner := true })
    else if last ≠ .alef ∧ inRanges Ligature.passedOver c then some (0, f)
    else (Ligature.join? last f.joiner c).map fun (added, rest) =>
      (added, { opening := rest.elim .other .ligature })
  | o => (joinPicture? o c).map fun (added, opening) => (added, { opening })

/-- The columns that a character adds in front of a text, and what the text opens with then. -/
def add (f : Follower) (c : Char) : Int × Follower :=
  if f.asPicture && inRanges pictureSelectableRanges c then
    (if f.isJoined then 0 else 2, { opening := .picture })
  else
    let f := f.dropPicture
    if c = '\n' then (1, { opening := .lineFeed })
    else if c.toNat ≤ 0xa0 then (if c = '\r' ∧ f.opening = .lineFeed then 0 else 1, {})
    else if c = pictureSelector then (0, f.selectPicture)
    else if c = letterSelector then (0, f.selectLetter)
    else if f.asLetter && inRanges letterSelectableRanges c then (1, {})
    else
      (join? { f with asLetter := false } c).getD (charWidth c, ofChar c)

end Follower

def width (s : String) : Nat :=
  let (columns, _) := s.toList.foldr (fun c (columns, follower) =>
    let (added, follower) := Follower.add follower c
    (columns + added, follower)) ((0 : Int), ({} : Follower))
  columns.toNat

def padTo (columns : Nat) (s : String) : String :=
  s ++ .ofList (List.replicate (columns - width s) ' ')

end SessionGateway.Text
