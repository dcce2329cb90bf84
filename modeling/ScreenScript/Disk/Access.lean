import ScreenScript.Routine
import ScreenScript.Disk.Basic
import ScreenScript.Text.Lines

/-!
# Access to the disk

The operations on files and folders as routines on a disk, and the text of files.
-/

namespace ScreenScript.Disk

/-- The result of an operation on files, or its fault. -/
def toRoutine {α : Type} : Except FileError α → Routine Disk α := Routine.ofExcept .file

/-- Whether there is something where a path leads. -/
def checkExists (path : Path) : Routine Disk Bool := do toRoutine ((← Routine.get).exists? path)

/-- Reads a file. -/
def readContent (path : Path) : Routine Disk Content := do toRoutine ((← Routine.get).read path)

/-- The text of a file's content, if its octets encode one. -/
def textOf? (content : Content) : Option Text :=
  (Utf8.decode? content.toOctets).map Text.unifyNewlines

/-- Reads the text of a file. Every end of a line reads as `\n`. -/
def readText (path : Path) : Routine Disk Text := do
  match textOf? (← readContent path) with
  | some text => return text
  | none => Routine.fail (.undecodable path)

/-- Writes a file. -/
def writeContent (path : Path) (content : Content) : Routine Disk Unit := do
  Routine.set (← toRoutine ((← Routine.get).write path content))

/-- Writes a text into a file. -/
def writeText (path : Path) (t : Text) : Routine Disk Unit :=
  writeContent path (.octets (Utf8.encode t))

/-- Makes an empty file unless something is there. -/
def touchFile (path : Path) : Routine Disk Unit := do
  Routine.set (← toRoutine ((← Routine.get).touch path))

/-- Makes an empty file unless there is a file. -/
def ensureFile (path : Path) : Routine Disk Unit := do
  Routine.set (← toRoutine ((← Routine.get).openFile path))

/-- Makes a folder and the folders around it. -/
def ensureFolder (path : Path) : Routine Disk Unit := do
  let (made, disk) := (← Routine.get).makeFolders path
  Routine.set disk
  toRoutine made

end ScreenScript.Disk
