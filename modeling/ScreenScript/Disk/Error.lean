import ScreenScript.Disk.Path
import ScreenScript.Text.Literal

/-!
# Errors of the file system

Why a file or folder cannot be read, written or made.
-/

namespace ScreenScript

/-- What stands in the way. -/
inductive FileFault
  /-- there is no such file or folder -/
  | missing
  /-- it is there already -/
  | occupied
  /-- a name on the way is not that of a folder -/
  | notFolder
  /-- it is a folder -/
  | isFolder
  /-- a name, or the whole path, is too long -/
  | tooLong
  /-- the path holds a character that no name can hold -/
  | nullCharacter
  deriving DecidableEq, Repr

/-- A fault and the path that it is about. -/
structure FileError where
  /-- what stands in the way -/
  fault : FileFault
  /-- the path as it was given -/
  path : Path
  deriving DecidableEq, Repr

namespace FileError

/-- The number and the words of the system for a fault. -/
def faultWords : FileFault → String
  | .missing => "[Errno 2] No such file or directory"
  | .occupied => "[Errno 17] File exists"
  | .notFolder => "[Errno 20] Not a directory"
  | .isFolder => "[Errno 21] Is a directory"
  | .tooLong => "[Errno 36] File name too long"
  | .nullCharacter => "embedded null byte"

/-- The error in words. -/
def message (error : FileError) : Text :=
  match error.fault with
  | .nullCharacter => (faultWords .nullCharacter).toList
  | fault => (faultWords fault).toList ++ ": ".toList ++ Text.literal error.path.toText

/-- Whether the system has refused, as opposed to a path that is none. -/
def isRefusal (error : FileError) : Bool := error.fault ≠ .nullCharacter

end FileError

end ScreenScript
