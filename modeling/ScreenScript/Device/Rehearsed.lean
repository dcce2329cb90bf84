import ScreenScript.Device.Basic
import ScreenScript.Device.Bridge
import ScreenScript.Vision.Service

/-!
# Rehearsed worlds

Worlds whose answers are laid down in advance, for trying a script out without a phone: a bridge that
answers by rules, a device that answers each kind of call in turn, and a list of deliveries.

* `Rehearsal.bridgeReplies` — the answers of a bridge, by the beginning of the command
* `Rehearsal.device` — a device whose calls are recorded
* `Rehearsal.deliveries` — answers that are used up one after the other
-/

namespace ScreenScript.Rehearsal

/-! ## A bridge -/

/-- What commands that start in a certain way meet, one after the other; the last reply again and
again. -/
structure Rule where
  /-- what the command starts with -/
  start : Text
  /-- the replies in turn -/
  replies : List BridgeReply
  deriving Repr, Inhabited

/-- A command without the choice of a device at its front. -/
def withoutDevice : BridgeCommand → BridgeCommand
  | first :: rest => if first = "-s".toList then rest.tail else first :: rest
  | [] => []

/-- A command as one text; for which device it is does not count. -/
def commandText (command : BridgeCommand) : Text := [' '].intercalate (withoutDevice command)

/-- Whether a rule is about a command. -/
def Rule.matchesCommand (rule : Rule) (command : BridgeCommand) : Bool :=
  rule.start.isPrefixOf (commandText command)

/-- The place of the first rule that is about a command. -/
def ruleIndex? (rules : List Rule) (command : BridgeCommand) : Option Nat :=
  rules.findIdx? (·.matchesCommand command)

/-- The item at a place, or else the last one. -/
def itemOrLast? {α : Type} (items : List α) (place : Nat) : Option α :=
  items[min place (items.length - 1)]?

/-- A reply without output. -/
def emptyReply : BridgeReply := .ended 0 (.octets [])

/-- What a bridge answers by rules. -/
def bridgeReplies (rules : List Rule) (history : Bridge.History) (command : BridgeCommand) :
    BridgeReply :=
  match ruleIndex? rules command with
  | none => emptyReply
  | some index =>
    let earlier := (history.filter fun other => ruleIndex? rules other = some index).length
    match rules[index]? with
    | some rule => (itemOrLast? rule.replies earlier).getD emptyReply
    | none => emptyReply

/-! ## A device -/

/-- What a screenshot of a rehearsed device gives. -/
inductive Shot
  /-- a file with this content, and the factor by which it was scaled -/
  | taken (content : Content) (factor : Scalar)
  /-- a path where there is no file -/
  | missing (factor : Scalar)
  /-- a path where there is a folder -/
  | folder (factor : Scalar)
  deriving DecidableEq, Repr, Inhabited

/-- What a device answers: to each call, given the calls before it, the latest first. -/
structure Answers where
  /-- the answers to everything but screenshots -/
  answer : List DeviceCall → DeviceCall → Bool
  /-- the screenshots; none if the device cannot take one -/
  shot : List DeviceCall → Step → Option Shot
  /-- the file for screenshots -/
  shotPath : Path

/-- A call that is recorded and answered. -/
def call (answers : Answers) (c : DeviceCall) : Routine (Site (List DeviceCall)) Bool :=
  Site.onDevice do
    Routine.emit (.called c)
    let history ← Routine.get
    Routine.set (c :: history)
    return answers.answer history c

/-- The files and folders without the node at a location. -/
def remove (disk : Disk) (location : Location) : Disk :=
  { disk with nodes := disk.nodes.filter fun (place, _) => place ≠ location }

/-- The disk with what a screenshot leaves at its path. -/
def leave (disk : Disk) (path : Path) (shot : Shot) : Disk :=
  match disk.locate path with
  | .error _ => disk
  | .ok location =>
    let cleared := remove disk location
    match shot with
    | .taken content _ => cleared.put location (.file content)
    | .missing _ => cleared
    | .folder _ => cleared.put location .folder

/-- The factor of a screenshot. -/
def Shot.factor : Shot → Scalar
  | taken _ factor | missing factor | folder factor => factor

/-- A screenshot that is recorded. -/
def screenshot (answers : Answers) (step : Step) :
    Routine (Site (List DeviceCall)) (Option Screenshot) := do
  let c := DeviceCall.screenshot step.name
  Routine.emit (.called c)
  let site ← Routine.get
  match answers.shot site.device step with
  | none => do
    Routine.set { site with device := c :: site.device }
    return none
  | some shot => do
    Routine.set { disk := leave site.disk answers.shotPath shot, device := c :: site.device }
    return some ⟨answers.shotPath, shot.factor⟩

/-- The device that answers so. -/
def device (answers : Answers) : Device (List DeviceCall) where
  isConnected := call answers .connected
  install := call answers .install
  uninstall package := call answers (.uninstall package)
  clearData package := call answers (.clearData package)
  openApp package := call answers (.openApp package)
  tap x y := call answers (.tap x y)
  swipe x₁ y₁ x₂ y₂ := call answers (.swipe x₁ y₁ x₂ y₂)
  type text := call answers (.type text)
  back := call answers .back
  home := call answers .home
  recent := call answers .recent
  screenshot := screenshot answers

/-- Whether two calls are of the same kind, whatever their arguments are. -/
def sameKind : DeviceCall → DeviceCall → Bool
  | .connected, .connected | .install, .install | .uninstall _, .uninstall _
  | .clearData _, .clearData _ | .openApp _, .openApp _ | .tap _ _, .tap _ _
  | .swipe _ _ _ _, .swipe _ _ _ _ | .type _, .type _ | .home, .home | .back, .back
  | .recent, .recent | .screenshot _, .screenshot _ => true
  | _, _ => false

/-- How many calls of its kind were made before a call. -/
def countBefore (history : List DeviceCall) (c : DeviceCall) : Nat :=
  (history.filter (sameKind c)).length

/-! ## A service -/

/-- What requests meet one after the other; behind that, the last one again and again. -/
def deliveries (inTurn : List Delivery) (last : Delivery) (sent : Nat) : Delivery :=
  (inTurn[sent]?).getD last

end ScreenScript.Rehearsal
