import ScreenScript.Device.Basic
import ScreenScript.Config.Intervals
import ScreenScript.Picture.File
import ScreenScript.Picture.Plain
import ScreenScript.Run.Pause
import ScreenScript.Text.Shell

/-!
# The bridge to a device

The bridge is a program that runs one command for the device and ends. Its answer may depend on all
commands that it was given before. A command has gone well if the program ends with code zero and its
output speaks of no error.

* `Bridge.execute` — one command
* `Bridge.run` — one command whose output is text
* `Bridge.device` — the device behind the bridge
-/

namespace ScreenScript

/-- What a command of the bridge meets. -/
inductive BridgeReply
  /-- the program cannot be started -/
  | missing
  /-- the program does not end in time -/
  | silent
  /-- the program ends with a code and has written some output -/
  | ended (code : Int) (output : Content)
  deriving DecidableEq, Repr, Inhabited

/-- The words of a command, without the program. -/
abbrev BridgeCommand := List Text

/-- The bridge, the device that is chosen with it, and the workspace. -/
structure Bridge where
  /-- the program -/
  program : Text
  /-- the serial number of the device; any device if there is none -/
  serial : Option Text
  /-- the folder of the workspace -/
  folder : Path
  /-- the intervals -/
  intervals : Intervals
  /-- what a command meets, given the commands before it, the latest first -/
  replies : List BridgeCommand → BridgeCommand → BridgeReply
  /-- the library for pictures -/
  imaging : Imaging := .plain

namespace Bridge

/-- The commands that the bridge was given, the latest first. -/
abbrev History := List BridgeCommand

/-! ## Commands -/

/-- A command with the choice of a device. -/
def withDevice (bridge : Bridge) (command : BridgeCommand) : BridgeCommand :=
  match bridge.serial with
  | some serial => "-s".toList :: serial :: command
  | none => command

/-- A command with the program and the choice of a device. -/
def fullCommand (bridge : Bridge) (command : BridgeCommand) : List Text :=
  bridge.program :: bridge.withDevice command

/-- Whether a command can be handed to the system, which takes the character zero for the end of a word. -/
def isRunnable (bridge : Bridge) (command : BridgeCommand) : Bool :=
  (bridge.fullCommand command).all fun word => !word.elem '\x00'

/-- Runs a command; the result is the code that the program ends with, and its output. -/
def execute (bridge : Bridge) (command : BridgeCommand) : Routine History (Int × Content) := do
  if bridge.isRunnable command then do
    Routine.emit (.ran (bridge.fullCommand command))
    let history ← Routine.get
    Routine.set (bridge.withDevice command :: history)
    match bridge.replies history (bridge.withDevice command) with
    | .missing => Routine.fail (.bridge (.notFound bridge.program))
    | .silent => do
      Routine.emit .stopped
      Routine.fail (.bridge (.timedOut (bridge.fullCommand command)))
    | .ended code output => return (code, output)
  else
    Routine.fail (.unrunnable (bridge.fullCommand command))

/-- The faults of the bridge itself. -/
def ownFault : Fault → Option BridgeFault
  | .bridge fault => some fault
  | _ => none

/-- Whether the output of a command speaks of an error. -/
def looksFailed (output : Text) : Bool :=
  Text.contains "error".toList output.lower || Text.contains "failure".toList output.lower

/-- Runs a command; the result is whether it went well, and its output as text. -/
def run (bridge : Bridge) (command : BridgeCommand) : Routine History (Bool × Text) := do
  match ← (bridge.execute command).attempt ownFault with
  | .error fault => do
    Routine.say .error fault.message
    return (false, fault.message)
  | .ok (code, raw) => do
    let output := (Utf8.decodeDropping raw.toOctets).trim
    if output ≠ [] then
      Routine.say .debug output
    return (code = 0 && !looksFailed output, output)

/-- Runs a command; the result is whether it went well. -/
def succeeds (bridge : Bridge) (command : BridgeCommand) : Routine History Bool := do
  let (ok, _) ← bridge.run command
  return ok

/-- Whether a line of the list of devices says that the chosen device is there. -/
def listsDevice (serial : Option Text) (line : Text) : Bool :=
  match line.words with
  | first :: second :: _ =>
    second = "device".toList && match serial with
      | some serial => first = serial
      | none => true
  | _ => false

/-- Whether the chosen device is there. -/
def isConnected (bridge : Bridge) : Routine History Bool := do
  let (ok, output) ← bridge.run ["devices".toList]
  return ok && output.lines.any (listsDevice bridge.serial)

/-! ## Gestures -/

/-- The words of a command for the shell of the device. -/
def shell (words : List String) (arguments : List Text) : BridgeCommand :=
  "shell".toList :: words.map String.toList ++ arguments

/-- How long a swipe takes unless something else is asked for, in milliseconds. -/
def swipeDuration : Int := 200

/-- Taps a point. -/
def tap (bridge : Bridge) (x y : Int) : Routine History Bool := do
  Routine.say .debug ("点击 (".toList ++ Text.ofInt x ++ ", ".toList ++ Text.ofInt y ++ ")".toList)
  bridge.succeeds (shell ["input", "tap"] [Text.ofInt x, Text.ofInt y])

/-- Swipes from one point to another in some milliseconds. -/
def swipe (bridge : Bridge) (x₁ y₁ x₂ y₂ duration : Int) : Routine History Bool := do
  Routine.say .debug ("滑动 (".toList ++ Text.ofInt x₁ ++ ", ".toList ++ Text.ofInt y₁ ++ ") -> (".toList ++
    Text.ofInt x₂ ++ ", ".toList ++ Text.ofInt y₂ ++ ") ".toList ++ Text.ofInt duration ++ "ms".toList)
  bridge.succeeds (shell ["input", "swipe"]
    ([x₁, y₁, x₂, y₂, duration].map Text.ofInt))

/-- The command that types a text. -/
def typing (t : Text) : BridgeCommand := shell ["input", "text"] [t.typedWord]

/-- Types a text at once. -/
def typeAtOnce (bridge : Bridge) (t : Text) : Routine History Bool := do
  Routine.say .debug ("输入文本: '".toList ++ t.trim ++ "'".toList)
  bridge.succeeds (typing t.trim)

/-- Types characters one by one, with a pause behind each, until one is refused. -/
def typeEach (bridge : Bridge) : Text → Routine History Bool
  | [] => return true
  | c :: rest => do
    if ← bridge.succeeds (typing [c]) then do
      Routine.pause (.int bridge.intervals.typingDelay)
      bridge.typeEach rest
    else
      return false

/-- Types a text character by character. -/
def typeSlowly (bridge : Bridge) (t : Text) : Routine History Bool := do
  Routine.say .debug ("逐字输入文本: '".toList ++ t.trim ++ "'".toList)
  bridge.typeEach t.trim

/-- Presses the key with a code. -/
def press (bridge : Bridge) (code : Nat) : Routine History Bool :=
  bridge.succeeds (shell ["input", "keyevent"] [Text.ofNat code])

/-- The code of the home key. -/
def homeKey : Nat := 3

/-- The code of the back key. -/
def backKey : Nat := 4

/-- The code of the key that shows the recent apps. -/
def recentKey : Nat := 187

/-! ## Apps -/

/-- What the name of a package file ends with. -/
def packageSuffix : Text := ".apk".toList

/-- The package file of a folder: of several, the one whose name comes first. -/
def packageFile? (disk : Disk) (folder : Path) : Option Text :=
  (((disk.list folder).filter fun name => packageSuffix.isSuffixOf name).mergeSort
    Text.isAtMost).head?

/-- Installs the app of the workspace. -/
def install (bridge : Bridge) : Routine (Site History) Bool := do
  let site ← Routine.get
  match packageFile? site.disk bridge.folder with
  | none => do
    Routine.say .error ("工作目录中没有 APK 文件: ".toList ++ bridge.folder.toText)
    return false
  | some name => do
    Routine.say .info ("安装 APK: ".toList ++ name)
    let path := (bridge.folder.child name).absolute site.disk.hereNames
    Site.onDevice (bridge.succeeds ["install".toList, path.toText])

/-- Removes an app. That it may not be there is no failure. -/
def uninstall (bridge : Bridge) (package : Text) : Routine History Bool := do
  Routine.say .info ("卸载: ".toList ++ package)
  let _ ← bridge.succeeds ["uninstall".toList, package]
  return true

/-- Clears the data of an app. -/
def clearData (bridge : Bridge) (package : Text) : Routine History Bool := do
  Routine.say .info ("清除数据: ".toList ++ package)
  bridge.succeeds (shell ["pm", "clear"] [package])

/-- Starts an app. -/
def openApp (bridge : Bridge) (package : Text) : Routine History Bool := do
  Routine.say .info ("启动应用: ".toList ++ package)
  bridge.succeeds (shell ["monkey", "-p"]
    [package, "-c".toList, "android.intent.category.LAUNCHER".toList, "1".toList])

/-! ## Screenshots -/

/-- The file for the screenshot of a step: named after the step, in lower case and with hyphens for
spaces, in the folder for images. -/
def screenshotPath (bridge : Bridge) (step : Step) : Path :=
  (bridge.folder.child "images".toList).child
    (((step.name.replaceChar ' ' '-').lower) ++ ".png".toList)

/-- Scales a screenshot and covers its status bar; the result is the factor of scaling. -/
def prepare (imaging : Imaging) (intervals : Intervals) (path : Path) : Routine Disk Binary64 := do
  let factor ← Picture.scaleFile imaging path path (.int intervals.normalizedWidth)
  if intervals.coversStatusBar then
    Picture.coverFile imaging path (.real intervals.statusBarShare)
  return factor

/-- Takes a screenshot for a step. -/
def screenshot (bridge : Bridge) (step : Step) : Routine (Site History) (Option Screenshot) := do
  let path := bridge.screenshotPath step
  Site.onDisk (Disk.ensureFolder path.parent)
  Routine.say .debug "截图中...".toList
  match ← (Site.onDevice (bridge.execute
      ["exec-out".toList, "screencap".toList, "-p".toList])).attempt ownFault with
  | .error fault => do
    Routine.say .error ("截图失败: ".toList ++ fault.message)
    return none
  | .ok (code, data) => do
    if code ≠ 0 || data.isEmpty then
      Routine.say .error ("截图失败: returncode=".toList ++ Text.ofInt code ++ ", size=".toList ++
        Text.ofNat data.toOctets.length)
      return none
    else
      Site.onDisk (Disk.writeContent path data)
      let refusal (fault : Fault) : Option Fault := if fault.isStorage then some fault else none
      match ← (Site.onDisk (prepare bridge.imaging bridge.intervals path)).attempt refusal with
      | .error fault => do
        Routine.say .error ("截图处理失败: ".toList ++ fault.message)
        return none
      | .ok factor => do
        Routine.say .debug ("截图已保存: ".toList ++ path.toText)
        return some ⟨path, .real factor⟩

/-- The device behind the bridge. -/
def device (bridge : Bridge) : Device History where
  isConnected := Site.onDevice bridge.isConnected
  install := bridge.install
  uninstall package := Site.onDevice (bridge.uninstall package)
  clearData package := Site.onDevice (bridge.clearData package)
  openApp package := Site.onDevice (bridge.openApp package)
  tap x y := Site.onDevice (bridge.tap x y)
  swipe x₁ y₁ x₂ y₂ := Site.onDevice (bridge.swipe x₁ y₁ x₂ y₂ swipeDuration)
  type text := Site.onDevice (bridge.typeSlowly text)
  back := Site.onDevice (bridge.press backKey)
  home := Site.onDevice (bridge.press homeKey)
  recent := Site.onDevice (bridge.press recentKey)
  screenshot := bridge.screenshot

end Bridge

end ScreenScript
