import ScreenScript.Config.Environment
import ScreenScript.Disk.Path
import ScreenScript.Json.Field

/-!
# Settings

What is fixed for a run before any file is read: where the workspace is, which files of it count, how the
device is reached, and what is told to the console. Settings come from variables.
-/

namespace ScreenScript

open Json

/-- The settings of a run. -/
structure Settings where
  /-- the folder of the workspace -/
  workingDir : Text := "./dist".toList
  /-- the script, seen from the workspace -/
  scriptFile : Text := "script.txt".toList
  /-- the macros, seen from the workspace -/
  macrosFile : Text := "macros.txt".toList
  /-- the program of the bridge -/
  bridgeProgram : Text := "adb".toList
  /-- the serial number of the device -/
  serial : Option Text := none
  /-- how many seconds a command of the bridge may take -/
  bridgeTimeout : Binary64 := .ofDecimal false 60 0
  /-- how many seconds a request to the service may take -/
  serviceTimeout : Binary64 := .ofDecimal false 60 0
  /-- the name of the least level that the console shows -/
  logLevel : Text := "INFO".toList
  /-- whether the console shows messages at all -/
  logsToConsole : Bool := true
  deriving DecidableEq, Repr, Inhabited

namespace Settings

/-- What the names of all variables start with. -/
def mark : Text := "screenpilot_".toList

/-- The names of the variables as they are usually written. -/
def variableNames : List String :=
  ["SCREENPILOT_WORKING_DIR", "SCREENPILOT_SCRIPT_FILE", "SCREENPILOT_MACROS_FILE",
    "SCREENPILOT_ADB_PATH", "SCREENPILOT_DEVICE_SERIAL", "SCREENPILOT_ADB_TIMEOUT_SEC",
    "SCREENPILOT_VISION_TIMEOUT_SEC", "SCREENPILOT_LOG_LEVEL", "SCREENPILOT_LOG_CONSOLE_ENABLED"]

/-- The settings whose members these are. -/
def ofMembers (members : List (Text × Json)) : Checked Settings :=
  let default : Settings := {}
  Settings.mk
    <$> field members ["working_dir".toList] default.workingDir checkText
    <*> field members ["script_file".toList] default.scriptFile checkText
    <*> field members ["macros_file".toList] default.macrosFile checkText
    <*> field members ["adb_path".toList] default.bridgeProgram checkText
    <*> field members ["device_serial".toList] default.serial (checkOptional checkText)
    <*> field members ["adb_timeout_sec".toList] default.bridgeTimeout checkReal
    <*> field members ["vision_timeout_sec".toList] default.serviceTimeout checkReal
    <*> field members ["log_level".toList] default.logLevel checkText
    <*> field members ["log_console_enabled".toList] default.logsToConsole checkFlag

/-- The settings that variables give; those of the environment win over those of the file. -/
def ofVariables (file environment : Variables) : Checked Settings :=
  ofMembers ((Variables.withoutMark mark (file ++ environment)).values.map fun (name, value) =>
    (name, .str value))

/-- The folder of the workspace. -/
def folder (settings : Settings) : Path := .ofText settings.workingDir

/-- The script. -/
def script (settings : Settings) : Path := settings.folder.child settings.scriptFile

/-- The macros. -/
def macros (settings : Settings) : Path := settings.folder.child settings.macrosFile

end Settings

end ScreenScript
