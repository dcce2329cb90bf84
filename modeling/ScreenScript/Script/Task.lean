import ScreenScript.Number.Scalar
import ScreenScript.Text.Literal

/-!
# Tasks

A script is a list of tasks. Most of them are single commands to the device; a step describes one
screen of the app, with what has to be true on it and what is to be done there, and is carried out
with the help of the vision service.

* `Step`, `StepTask` — a screen, and how it is to be processed
* `Task` — everything that a script can ask for
* `Task.toText` — a task as it is shown in messages
-/

namespace ScreenScript

/-- How a step is processed. -/
inductive StepKind
  /-- once -/
  | normal
  /-- again and again until the service asks to stop -/
  | repeating
  /-- once, with more freedom for the service -/
  | creative
  deriving DecidableEq, Repr, Inhabited

namespace StepKind

/-- The name of a kind. -/
def name : StepKind → Text
  | normal => "normal".toList
  | repeating => "repeating".toList
  | creative => "creative".toList

/-- The kind with a name. -/
def ofName? (t : Text) : Option StepKind :=
  [normal, repeating, creative].find? fun kind => kind.name = t

/-- How freely the service may answer: the sampling temperature it is asked to use. -/
def temperature : StepKind → Binary64
  | creative => .ofDecimal false 9 (-1)
  | _ => .ofDecimal false 1 (-1)

end StepKind

/-- A screen of the app. -/
structure Step where
  /-- the name of the screen -/
  name : Text
  /-- what has to be true on it -/
  assertions : List Text := []
  /-- what is to be done on it -/
  actions : List Text := []
  /-- whether no step follows in the script -/
  isLast : Bool := false
  deriving DecidableEq, Repr, Inhabited

/-- A step together with how it is processed. -/
structure StepTask where
  /-- the screen -/
  step : Step
  /-- how it is processed -/
  kind : StepKind := .normal
  /-- how often a repeating step is processed at most -/
  maxRepeats : Int := 10
  deriving DecidableEq, Repr, Inhabited

/-- One thing that a script asks for. -/
inductive Task
  /-- install the app from the package file of the workspace -/
  | install
  /-- remove an app -/
  | uninstall (package : Text)
  /-- clear the data of an app -/
  | clearData (package : Text)
  /-- start an app -/
  | openApp (package : Text)
  /-- press the back key -/
  | back
  /-- press the home key -/
  | home
  /-- show the recent apps -/
  | recentApps
  /-- do nothing for some seconds -/
  | wait (seconds : Scalar)
  /-- begin a new description of what is tested -/
  | description (text : Text)
  /-- process a screen -/
  | screen (task : StepTask)
  /-- nothing that a script can ask for; what it is instead -/
  | foreign (what : Text)
  deriving DecidableEq, Repr, Inhabited

namespace Task

/-- Whether a task is a step. -/
def isScreen : Task → Bool
  | screen _ => true
  | _ => false

/-- The task with its step marked as the last one. -/
def asLast : Task → Task
  | screen task => screen { task with step := { task.step with isLast := true } }
  | task => task

/-- The tasks with the last of their steps marked as such. -/
def markLast : List Task → List Task
  | [] => []
  | task :: rest =>
    if rest.any isScreen then task :: markLast rest else asLast task :: rest

end Task

/-! ## Texts -/

/-- A list of literals in round brackets; a single one is followed by a comma. -/
def Text.literalTuple : List Text → Text
  | [item] => '(' :: Text.literal item ++ ",)".toList
  | items => '(' :: ", ".toList.intercalate (items.map Text.literal) ++ ")".toList

/-- The text of a truth value. -/
def Text.ofBool (b : Bool) : Text := if b then "True".toList else "False".toList

namespace Step

/-- The name of a step and how much there is to it. -/
def summary (step : Step) : Text :=
  "name = ".toList ++ step.name ++ " (".toList ++ Text.ofNat step.assertions.length ++
    " assertions, ".toList ++ Text.ofNat step.actions.length ++ " actions)".toList

/-- A step with all its parts. -/
def toText (step : Step) : Text :=
  "Step(name=".toList ++ Text.literal step.name ++
    ", assertions=".toList ++ Text.literalTuple step.assertions ++
    ", actions=".toList ++ Text.literalTuple step.actions ++
    ", is_last_step=".toList ++ Text.ofBool step.isLast ++ ")".toList

end Step

/-- A kind of step as a member of its enumeration: its name there and its value. -/
def StepKind.toText (kind : StepKind) : Text :=
  "<StepType.".toList ++ kind.name.map Char.toUpper ++ ": ".toList ++ Text.literal kind.name ++ ">".toList

/-- A step task with all its parts. -/
def StepTask.toText (task : StepTask) : Except ArithmeticError Text := do
  let repeats ← (Scalar.int task.maxRepeats).toText
  return "StepTask(step=".toList ++ task.step.toText ++
    ", step_type=".toList ++ task.kind.toText ++
    ", max_repeats=".toList ++ repeats ++ ")".toList

/-- A task with all its parts. There is no text if a number in it has too many digits. -/
def Task.toText : Task → Except ArithmeticError Text
  | install => .ok "Install()".toList
  | uninstall package => .ok ("Uninstall(package_name=".toList ++ Text.literal package ++ ")".toList)
  | clearData package => .ok ("ClearData(package_name=".toList ++ Text.literal package ++ ")".toList)
  | openApp package => .ok ("OpenApp(package_name=".toList ++ Text.literal package ++ ")".toList)
  | back => .ok "Back()".toList
  | home => .ok "Home()".toList
  | recentApps => .ok "RecentApps()".toList
  | wait seconds => do return "Wait(seconds=".toList ++ (← seconds.toText) ++ ")".toList
  | description text => .ok ("Description(text=".toList ++ Text.literal text ++ ")".toList)
  | screen task => task.toText
  | foreign what => .ok ('<' :: what ++ ">".toList)

/-! ## Small laws -/

namespace Task

@[simp] theorem length_markLast (tasks : List Task) : (markLast tasks).length = tasks.length := by
  induction tasks with
  | nil => rfl
  | cons task rest ih => rw [markLast]; split <;> simp [ih]

/-- Tasks without a step stay as they are. -/
theorem markLast_of_not_any {tasks : List Task} (h : tasks.any isScreen = false) :
    markLast tasks = tasks := by
  cases tasks with
  | nil => rfl
  | cons task rest =>
    simp only [List.any_cons, Bool.or_eq_false_iff] at h
    cases task <;> simp_all [markLast, asLast, isScreen]

end Task

end ScreenScript
