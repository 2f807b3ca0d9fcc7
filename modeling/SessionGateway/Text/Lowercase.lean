import SessionGateway.Text.CharRange
import SessionGateway.Text.CaseTable

/-! Lower-casing. Each letter is mapped on its own, except that a capital sigma at the end of a word
becomes the final sigma. The ASCII maps touch only the letters from A to Z. -/

namespace SessionGateway.Text

/-- A capital I with a dot above is the one letter that becomes two characters. -/
def lowerChar (c : Char) : List Char :=
  if c.toNat = 0x130 then ['i', Char.ofNat 0x307]
  else
    match lowercaseRows.find? fun (first, last, step, _) =>
        first ≤ c.toNat && c.toNat ≤ last && (c.toNat - first) % step == 0 with
    | some (_, _, _, shift) => [Char.ofNat (c.toNat + shift).toNat]
    | none => [c]

/-- Reading outward, the first character that is not case-ignorable is a cased letter. -/
def facesLetter (cs : List Char) : Bool :=
  match cs.dropWhile (inRanges caseIgnorableRanges) with
  | [] => false
  | c :: _ => inRanges casedRanges c

def capitalSigma : Char := Char.ofNat 0x3a3
def smallSigma : Char := Char.ofNat 0x3c3
def finalSigma : Char := Char.ofNat 0x3c2

/-- Lower-case `cs`, where `before` are the characters in front of it, nearest first. -/
def lowerAfter (before : List Char) : List Char → List Char
  | [] => []
  | c :: cs =>
    (if c = capitalSigma then
      [if facesLetter before && !facesLetter cs then finalSigma else smallSigma]
    else lowerChar c) ++ lowerAfter (c :: before) cs

def lowercase (s : String) : String :=
  .ofList (lowerAfter [] s.toList)

def asciiLower (s : String) : String :=
  .ofList (s.toList.map Char.toLower)

def asciiUpper (s : String) : String :=
  .ofList (s.toList.map Char.toUpper)

end SessionGateway.Text
