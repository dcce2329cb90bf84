import ScreenScript.CommandLine
import ScreenScript.Config.Store
import ScreenScript.Device.Bridge
import ScreenScript.Journal
import ScreenScript.Run.Runner
import ScreenScript.Script.Source

/-!
# Launch

From a command line to the code that the program ends with. The workspace is made ready, its
configuration is read, its script is compiled, and only then the device is asked for and the script is
run. What is wrong with the configuration or the script is said, and ends the program.

* `Launch.prepare` — everything before the run
* `Launch.runScript` — everything behind the command line
* `Launch.launch` — the whole
-/

namespace ScreenScript

/-- What the program meets outside. -/
structure Surroundings where
  /-- the settings, before the command line changes them -/
  settings : Settings
  /-- the replies of the bridge -/
  replies : List BridgeCommand → BridgeCommand → BridgeReply
  /-- what requests to the vision service meet -/
  deliveries : Nat → Delivery
  /-- random digits -/
  digits : DigitStream
  /-- the time at which the program starts -/
  stamp : Stamp
  /-- the rules for the command line -/
  release : CommandLine.Release := .earlier
  /-- the library for pictures -/
  imaging : Imaging := .plain
  /-- the library that sends requests -/
  web : WebLibrary := .plain
  /-- the library that validates responses -/
  validator : Validator := .plain

/-- What the program acts on. -/
structure Host where
  /-- the files and folders -/
  disk : Disk
  /-- the commands that the bridge was given, the latest first -/
  history : Bridge.History := []
  /-- the number of requests sent -/
  sent : Nat := 0

namespace Launch

/-- What a run needs: the credentials, the intervals, the tasks, and the text of the script. -/
structure Prepared where
  /-- the credentials for the vision service -/
  credentials : Credentials
  /-- the intervals -/
  intervals : Intervals
  /-- the tasks of the script -/
  tasks : List Task
  /-- the text of the script -/
  script : Text
  deriving DecidableEq, Repr, Inhabited

/-- A malformed configuration in words; other faults are not expected. -/
def configurationFault : Fault → Option Text
  | .configuration path complaints => some (Fault.configuration path complaints).message
  | _ => none

/-- A malformed script in words; other faults are not expected. -/
def scriptFault : Fault → Option Text
  | .script (.malformed fault _) => some fault.message
  | _ => none

/-- Opens the file for the messages of the session. -/
def openSession (folder : Path) (stamp : Stamp) : Routine Disk Unit := do
  Disk.ensureFolder folder
  let path := Journal.sessionFile folder stamp.name
  Journal.openSink stamp path
  Routine.say .info ("详细日志: ".toList ++ path.toText)

/-- Makes the workspace ready and reads its configuration. -/
def loadConfig (folder : Path) : Routine Disk (Credentials × Intervals) := do
  Workspace.prepare folder
  let credentials ← ConfigKind.credentials.load (Workspace.credentialsFile folder)
  let intervals ← ConfigKind.intervals.load (Workspace.intervalsFile folder)
  return (credentials, intervals)

/-- Compiles the script of the workspace. -/
def compile (settings : Settings) (digits : DigitStream) (maxRepeats : Int) :
    Routine Disk (List Task) :=
  Source.compileFile digits settings.script (some settings.macros) maxRepeats

/-- Everything before the run; nothing if the configuration or the script is malformed. -/
def prepare (settings : Settings) (digits : DigitStream) : Routine Disk (Option Prepared) := do
  match ← (loadConfig settings.folder).attempt configurationFault with
  | .error message => do
    Routine.say .error message
    return none
  | .ok (credentials, intervals) => do
    Routine.say .info "ADB 已初始化".toList
    Routine.say .info "视觉服务已初始化".toList
    match ← (compile settings digits intervals.maxRepeats).attempt scriptFault with
    | .error message => do
      Routine.say .error ("脚本编译失败: ".toList ++ message)
      return none
    | .ok tasks => do
      let script ← Disk.readText settings.script
      return some ⟨credentials, intervals, tasks, script⟩

/-- What carries out the script of a workspace. -/
def engine (settings : Settings) (surroundings : Surroundings) (prepared : Prepared) :
    Engine Bridge.History where
  device := Bridge.device
    { program := settings.bridgeProgram
      serial := settings.serial.filter fun serial => serial ≠ []
      folder := settings.folder
      intervals := prepared.intervals
      replies := surroundings.replies
      imaging := surroundings.imaging }
  service :=
    { url := prepared.credentials.url
      apiKey := prepared.credentials.apiKey
      clientKey := prepared.credentials.clientKey
      deliveries := surroundings.deliveries
      web := surroundings.web
      validator := surroundings.validator }
  intervals := prepared.intervals

/-- A routine on the files of the host. -/
def onDisk {α : Type} (m : Routine Disk α) : Routine Host α :=
  m.within Host.disk fun host disk => { host with disk }

/-- A routine on a session with a new context. -/
def inSession {α : Type} (m : Routine (Session Bridge.History) α) : Routine Host α :=
  m.within (fun host => { site := ⟨host.disk, host.history⟩, sent := host.sent })
    fun _ session => ⟨session.site.disk, session.site.device, session.sent⟩

/-- Compiles and runs the script of the workspace; the result is whether all went well. -/
def runScript (settings : Settings) (surroundings : Surroundings) : Routine Host Bool := do
  onDisk (openSession (settings.folder.child Workspace.logsFolder) surroundings.stamp)
  match ← onDisk (prepare settings surroundings.digits) with
  | none => return false
  | some prepared =>
    inSession ((engine settings surroundings prepared).run prepared.tasks prepared.script)

/-- The path of the workspace from the root; it has to be a path. -/
def resolve (path : Path) (disk : Disk) : Except FileError Path :=
  if path.toText.elem '\x00' then .error ⟨.nullCharacter, path⟩ else .ok (path.absolute disk.hereNames)

/-- The whole program with settings that the command line has changed; the result is the code that it
ends with. -/
def start (settings : Settings) (surroundings : Surroundings) : Routine Host Int := do
  let host ← Routine.get
  let folder ← Routine.ofExcept .file (resolve settings.folder host.disk)
  Routine.say .info ("工作目录: ".toList ++ folder.toText)
  let ok ← runScript settings surroundings
  return if ok then 0 else 1

/-- The whole program. The command line may end it before anything happens. -/
def launch (words : List Text) (surroundings : Surroundings) :
    Except CommandLineExit (Routine Host Int) :=
  match CommandLine.read surroundings.release words with
  | .error exit => .error exit
  | .ok line => .ok (start (line.override surroundings.settings) surroundings)

end Launch

end ScreenScript
