import ScreenScript.Config.Credentials
import ScreenScript.Config.Intervals
import ScreenScript.Disk.Access
import ScreenScript.Json.Writer

/-!
# Configuration files

A configuration is kept in a JSON file. If the file is missing or blank, it is written with the default
values; a file that holds anything else is only read.

* `ConfigKind` — what a configuration is made of
* `ConfigKind.load` — the configuration of a file
* `Workspace.prepare` — the folders and files that a workspace has to have
* `Workspace.establish` — the path of a workspace, which has them
-/

namespace ScreenScript

/-- A kind of configuration. -/
structure ConfigKind (α : Type) where
  /-- the configuration of a new file -/
  default : α
  /-- the members of the JSON object of a configuration -/
  toMembers : α → List (Text × Json)
  /-- the configuration that the text of a file stands for -/
  ofText : Text → Checked α

namespace ConfigKind

/-- Credentials for the vision service. -/
def credentials : ConfigKind Credentials := ⟨{}, Credentials.toMembers, Credentials.ofText⟩

/-- Intervals. -/
def intervals : ConfigKind Intervals := ⟨{}, Intervals.toMembers, Intervals.ofText⟩

variable {α : Type}

/-- The text of a new file. -/
def defaultText (kind : ConfigKind α) : Text := Json.writeBlock (kind.toMembers kind.default)

/-- Whether a file is missing or blank. -/
def isUnset (path : Path) : Routine Disk Bool := do
  if ← Disk.checkExists path then
    return (← Disk.readText path).trim.isEmpty
  else
    return true

/-- The configuration of a file, which is written first if it is missing or blank. -/
def load (kind : ConfigKind α) (path : Path) : Routine Disk α := do
  if ← isUnset path then do
    Disk.ensureFolder path.parent
    Disk.writeText path kind.defaultText
    Routine.say .info ("已创建默认配置: ".toList ++ path.toText)
    return kind.default
  else do
    match kind.ofText (← Disk.readText path) with
    | .valid config => return config
    | .invalid complaints => Routine.fail (.configuration path complaints)

end ConfigKind

namespace Workspace

/-- The folder for screenshots. -/
def imagesFolder : Text := "images".toList

/-- The folder for the messages of runs. -/
def logsFolder : Text := "logs".toList

/-- The folder for configuration files. -/
def configFolder : Text := "config".toList

/-- The file with the credentials. -/
def credentialsFile (folder : Path) : Path := (folder.child configFolder).child "credentials.json".toList

/-- The file with the intervals. -/
def intervalsFile (folder : Path) : Path := (folder.child configFolder).child "intervals.json".toList

/-- The file that a script is put into unless the settings say otherwise. -/
def scriptFile (folder : Path) : Path := folder.child "script.txt".toList

/-- Makes the folders and files that a workspace has to have, and leaves those alone that are there. -/
def prepare (folder : Path) : Routine Disk Unit := do
  Disk.ensureFolder (folder.child imagesFolder)
  Disk.ensureFolder (folder.child logsFolder)
  Disk.ensureFolder (folder.child configFolder)
  let _ ← ConfigKind.credentials.load (credentialsFile folder)
  let _ ← ConfigKind.intervals.load (intervalsFile folder)
  if ← Disk.checkExists (scriptFile folder) then
    return ()
  else
    Disk.touchFile (scriptFile folder)

/-- Makes a folder a workspace. The result is its path. -/
def establish (folder : Path) : Routine Disk Path := do
  prepare folder
  return folder

end Workspace

end ScreenScript
