import ScreenScript.Launch

/-!
# The program

Reads the settings and the files that count from outside, launches the script, and leaves messages,
files and a code. Nothing outside can be started or reached from here, so the bridge is missing and
every request fails.

* `Program.run` — the program on the words of a command line
-/

namespace ScreenScript.Program

/-- How the program is used. -/
def usage : String := "usage: screenpilot [-h] [--serial SERIAL] [--adb-path ADB_PATH] [working_dir]"

/-- The variables of the environment that count. -/
def environment : IO Variables :=
  Settings.variableNames.filterMapM fun name => do
    return (← IO.getEnv name).map fun value => (name.toList, some value.toList)

/-- The variables of the file for them, if there is one. -/
def fileVariables (environment : Variables) : IO Variables := do
  try
    let octets := (← IO.FS.readBinFile ".env").toList
    return (Variables.ofOctets? environment octets).getD []
  catch _ =>
    return []

/-- The files that count before the run. -/
def sources (settings : Settings) : List Path :=
  [Workspace.credentialsFile settings.folder, Workspace.intervalsFile settings.folder,
    Workspace.scriptFile settings.folder, settings.script, settings.macros]

/-- The disk with the file that a path leads to outside, if it can be read. -/
def load (disk : Disk) (path : Path) : IO Disk := do
  try
    let octets := (← IO.FS.readBinFile (String.ofList path.toText)).toList
    let (_, disk) := disk.makeFolders path.parent
    return ((disk.write path (.octets octets)).toOption).getD disk
  catch _ =>
    return disk

/-- Leaves outside what is on a disk and was not there before. -/
def save (before after : Disk) : IO Unit :=
  after.nodes.forM fun (location, node) => do
    if before.node? location ≠ some node then
      let path := String.ofList (Path.toText ⟨.root, location.reverse⟩)
      match node with
      | .folder => IO.FS.createDirAll path
      | .file content => IO.FS.writeBinFile path ⟨content.toOctets.toArray⟩

/-- Shows the messages that the settings let through. -/
def report (settings : Settings) (log : List Entry) : IO Unit := do
  let least := (Level.ofName? settings.logLevel).getD .info
  if settings.logsToConsole then
    (log.filter fun entry => least.weight ≤ entry.level.weight).forM fun entry =>
      IO.println (String.ofList (entry.level.name ++ ": ".toList ++ entry.message))

/-- Launches the script with these settings. -/
def runWith (settings : Settings) (words : List Text) : IO UInt32 := do
  let here := (Path.ofText (← IO.currentDir).toString.toList).names
  let stamp ← IO.monoMsNow
  let seed ← IO.rand 0 1000000000
  let surroundings : Surroundings :=
    { settings
      replies := fun _ _ => .missing
      deliveries := fun _ => .failed "no network".toList
      digits := fun n => Fin.ofNat 10 (mixHash seed.toUInt64 n.toUInt64).toNat
      stamp := { name := Text.ofNat stamp } }
  match Launch.launch words surroundings with
  | .error .help => do
    IO.println usage
    return 0
  | .error .usage => do
    IO.eprintln usage
    return 2
  | .ok routine => do
    let line := (CommandLine.read surroundings.release words).toOption
    let chosen := (line.map fun line => line.override settings).getD settings
    let start := ((Disk.mk here.reverse []).makeFolders ⟨.root, here⟩).2
    let disk ← (sources chosen).foldlM load start
    let outcome := routine { disk }
    report settings outcome.log
    save disk outcome.state.disk
    match outcome.result with
    | .ok code => return UInt32.ofNat code.toNat
    | .error fault => do
      IO.eprintln (String.ofList fault.message)
      return 1

/-- The program on the words of a command line. -/
def run (words : List String) : IO UInt32 := do
  let outside ← environment
  match Settings.ofVariables (← fileVariables outside) outside with
  | .valid settings => runWith settings (words.map String.toList)
  | .invalid complaints => do
    IO.eprintln (String.ofList (Complaint.listToText complaints))
    return 1

end ScreenScript.Program

/-- Compiles and runs the script of a workspace. -/
def main (words : List String) : IO UInt32 := ScreenScript.Program.run words
