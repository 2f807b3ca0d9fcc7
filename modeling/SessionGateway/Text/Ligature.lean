import SessionGateway.Text.CharRange
import SessionGateway.Text.EmojiTable
import SessionGateway.Text.WidthTable

/-! Letters that are drawn together with letters in front of them. A text is read from its end: the
last letter of a ligature comes first, and each letter that joins it says how many columns it adds.
-/

namespace SessionGateway.Text

/-- The columns of a character that stands alone: none for marks that join the character before
them, two for East Asian wide characters, one for almost every other. -/
def charWidth (c : Char) : Nat :=
  if c.toNat = 0x17d8 then 3
  else if inRanges zeroWidthRanges c then 0
  else if inRanges doubleWidthRanges c then 2
  else 1

def zeroWidthJoiner : Char := Char.ofNat 0x200d

inductive Ligature where
  | alef
  | lamed
  | ya
  | yaBehindVowel
  | tifinagh
  | tifinaghJoined
  | lisuTone
  | orkhonI
  | khmer
  | kiratE
  | kiratAi
deriving DecidableEq

namespace Ligature

def alefs : List (Nat × Nat) :=
  [(0x622, 0x623), (0x625, 0x625), (0x627, 0x627), (0x671, 0x673), (0x675, 0x675),
   (0x773, 0x774), (0x870, 0x882)]

def lams : List (Nat × Nat) :=
  [(0x644, 0x644), (0x6b5, 0x6b8), (0x76a, 0x76a), (0x8a6, 0x8a6), (0x8c7, 0x8c7)]

def tifinaghLetters : List (Nat × Nat) :=
  [(0x2d31, 0x2d65), (0x2d6f, 0x2d6f)]

def khmerLetters : List (Nat × Nat) :=
  [(0x1780, 0x1782), (0x1784, 0x1787), (0x1789, 0x178c), (0x178e, 0x1793), (0x1795, 0x1798),
   (0x179b, 0x179d), (0x17a0, 0x17a0), (0x17a2, 0x17a2), (0x17a7, 0x17a7), (0x17ab, 0x17ac),
   (0x17af, 0x17af)]

/-- The ligature that a character can end. -/
def endedBy? (c : Char) : Option Ligature :=
  if inRanges alefs c then some alef
  else if c.toNat = 0x5dc then some lamed
  else if c.toNat = 0x1a10 then some ya
  else if inRanges tifinaghLetters c then some tifinagh
  else if inRanges [(0xa4fc, 0xa4fd)] c then some lisuTone
  else if c.toNat = 0x10c03 then some orkhonI
  else if inRanges khmerLetters c then some khmer
  else if c.toNat = 0x16d67 then some kiratE
  else if c.toNat = 0x16d68 then some kiratAi
  else none

/-- Selectors and other marks that leave every ligature but the Arabic one as it is. -/
def passedOver : List (Nat × Nat) :=
  [(0x34f, 0x34f), (0x17b4, 0x17b5), (0x180b, 0x180d), (0x180f, 0x180f), (0x200d, 0x200d),
   (0xfe00, 0xfe0f), (0xe0100, 0xe01ef)]

/-- Marks that may stand between the letters of the Arabic ligature. -/
def isTransparent (c : Char) : Bool :=
  inRanges zeroWidthRanges c && !inRanges separatingRanges c

/-- What a character in front of a ligature's end adds, and the ligature that it leaves open, if it
joins. Some letters join only if a joiner stands between. -/
def join? (last : Ligature) (joined : Bool) (c : Char) : Option (Int × Option Ligature) :=
  let n := c.toNat
  match last with
  | alef =>
    if inRanges lams c then some (0, none)
    else if isTransparent c then some (0, alef)
    else none
  | lamed => if joined ∧ n = 0x5d0 then some (0, none) else none
  | ya => if joined ∧ n = 0x1a17 then some (0, yaBehindVowel) else none
  | yaBehindVowel => if n = 0x1a15 then some (0, none) else none
  | tifinagh =>
    if n = 0x2d7f then some (1, tifinaghJoined)
    else if joined ∧ inRanges tifinaghLetters c then some (0, none)
    else none
  | tifinaghJoined => if inRanges tifinaghLetters c then some (-1, none) else none
  | lisuTone => if inRanges [(0xa4f8, 0xa4fb)] c then some (0, none) else none
  | orkhonI => if joined ∧ n = 0x10c32 then some (0, none) else none
  | khmer => if n = 0x17d2 then some (-1, none) else none
  | kiratE =>
    if n = 0x16d63 ∨ n = 0x16d69 then some (0, none)
    else if n = 0x16d67 then some (0, kiratE)
    else if n = 0x16d68 then some (1, kiratE)
    else none
  | kiratAi => if n = 0x16d63 then some (0, none) else none

end Ligature

end SessionGateway.Text
