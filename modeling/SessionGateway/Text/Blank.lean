import SessionGateway.Text.CharRange

/-! White space of the character database, and texts with the white space at their ends removed. -/

namespace SessionGateway.Text

def blankRanges : List (Nat × Nat) :=
  [(0x9, 0xd), (0x20, 0x20), (0x85, 0x85), (0xa0, 0xa0), (0x1680, 0x1680), (0x2000, 0x200a),
   (0x2028, 0x2029), (0x202f, 0x202f), (0x205f, 0x205f), (0x3000, 0x3000)]

/-- The zero-width space and the byte order mark are not blank. -/
def isBlank (c : Char) : Bool :=
  inRanges blankRanges c

def skipBlanks (cs : List Char) : List Char :=
  cs.dropWhile isBlank

theorem skipBlanks_cons_of_not_isBlank {c : Char} (cs : List Char) (h : isBlank c = false) :
    skipBlanks (c :: cs) = c :: cs := by
  simp [skipBlanks, h]

def trimChars (cs : List Char) : List Char :=
  (skipBlanks (skipBlanks cs).reverse).reverse

def trim (s : String) : String :=
  .ofList (trimChars s.toList)

end SessionGateway.Text
