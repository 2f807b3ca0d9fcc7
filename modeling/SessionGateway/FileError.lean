import SessionGateway.Text.Quoted

/-! Why a file or a directory cannot be used, in two forms: a message for users, and the details
that a failing program shows. -/

namespace SessionGateway

structure SystemError where
  number : Nat
  kind : String
  text : String
deriving DecidableEq

inductive FileError where
  | system (e : SystemError)
  | badPath (text : String)
  | other (text : String)
deriving DecidableEq

namespace FileError

def notFound : FileError := system ⟨2, "NotFound", "No such file or directory"⟩

def alreadyExists : FileError := system ⟨17, "AlreadyExists", "File exists"⟩

def notADirectory : FileError := system ⟨20, "NotADirectory", "Not a directory"⟩

def isADirectory : FileError := system ⟨21, "IsADirectory", "Is a directory"⟩

def nameTooLong : FileError := system ⟨36, "InvalidFilename", "File name too long"⟩

def zeroInPath : FileError := badPath "file name contained an unexpected NUL byte"

def message : FileError → String
  | system e => s!"{e.text} (os error {e.number})"
  | badPath text => text
  | other text => text

def details : FileError → String
  | system e =>
    s!"Os \x7b code: {e.number}, kind: {e.kind}, message: {Text.quote e.text} \x7d"
  | badPath text => s!"Error \x7b kind: InvalidInput, message: {Text.quote text} \x7d"
  | other text => s!"Custom \x7b kind: Other, error: {Text.quote text} \x7d"

end FileError

end SessionGateway
