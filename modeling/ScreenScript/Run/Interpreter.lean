import ScreenScript.Device.Basic
import ScreenScript.Run.Context
import ScreenScript.Run.Gesture
import ScreenScript.Run.Pause

/-!
# Carrying out actions

The actions of a response are carried out one after the other, each followed by a pause. Points are
those of the scaled picture and are converted to points of the screen. An input that the device
refuses is a soft error: it is recorded, and the actions behind it are still carried out.

* `Interpreter.perform` — one action
* `Interpreter.performAll` — all of them, with the soft errors in order
-/

namespace ScreenScript

/-- An input that the device has refused. -/
structure SoftError where
  /-- the action, without blanks at its ends -/
  action : Text
  /-- what went wrong -/
  message : Text
  deriving DecidableEq, Repr, Inhabited

/-- What carrying out actions depends on. -/
structure Interpreter (δ : Type) where
  /-- the device -/
  device : Device δ
  /-- the factor by which the picture was scaled -/
  factor : Scalar
  /-- the pause after every action -/
  delay : Int

namespace Interpreter

variable {δ : Type}

/-- A coordinate on the screen. -/
def onScreen (interpreter : Interpreter δ) (value : Int) : Routine (Site δ) Int :=
  Routine.ofExcept .arithmetic (RunContext.toDevice interpreter.factor (.int value))

/-- Leaves a message about a tap: a point of the screen, and the factor that led to it. -/
def sayTap (interpreter : Interpreter δ) (origin : Text) (x y : Int) : Routine (Site δ) Unit := do
  let factor ← Routine.ofExcept .arithmetic interpreter.factor.toText
  Routine.say .debug ("点击 ".toList ++ origin ++ "(".toList ++ Text.ofInt x ++ ", ".toList ++
    Text.ofInt y ++ ") scale:".toList ++ factor)

/-- The pause after an action. -/
def rest (interpreter : Interpreter δ) : Routine (Site δ) Unit :=
  Routine.pause (.int interpreter.delay)

/-- A number that an action writes with digits. -/
def written (digits : Text) : Routine (Site δ) Int :=
  match Text.readDigits? digits with
  | some n => return n
  | none => Routine.fail (.arithmetic .tooManyDigits)

/-- Taps the point of an input and types its text, also if the device refuses to tap. The error is the
one of typing, or else the one of tapping. -/
def input (interpreter : Interpreter δ) (action : Text) (parts : Gesture.Input) :
    Routine (Site δ) (Option SoftError) := do
  let x ← interpreter.onScreen (← written parts.x)
  let y ← interpreter.onScreen (← written parts.y)
  interpreter.sayTap [] x y
  let tapped ← interpreter.device.tap x y
  interpreter.rest
  Routine.say .debug ("输入文本: ".toList ++ parts.text)
  let typed ← interpreter.device.type parts.text
  return if !typed then
    some ⟨action, "Error inputting text: ".toList ++ parts.text⟩
  else if !tapped then
    some ⟨action, "Error tapping at ".toList ++ Text.ofInt x ++ ", ".toList ++ Text.ofInt y⟩
  else
    none

/-- A call of the device whose answer does not count. -/
def call (m : Routine (Site δ) Bool) : Routine (Site δ) (Option SoftError) := do
  let _ ← m
  return none

/-- Carries out an action without blanks at its ends. -/
def perform (interpreter : Interpreter δ) (action : Text) : Routine (Site δ) (Option SoftError) :=
  match Gesture.ofAction action with
  | .home => call interpreter.device.home
  | .back => call interpreter.device.back
  | .recent => call interpreter.device.recent
  | .tap x y => do
    let x' ← interpreter.onScreen x
    let y' ← interpreter.onScreen y
    let origin := "[".toList ++ Text.ofInt x ++ ", ".toList ++ Text.ofInt y ++ "] -> ".toList
    interpreter.sayTap origin x' y'
    call (interpreter.device.tap x' y')
  | .swipe x₁ y₁ x₂ y₂ => do
    let x₁' ← interpreter.onScreen x₁
    let y₁' ← interpreter.onScreen y₁
    let x₂' ← interpreter.onScreen x₂
    let y₂' ← interpreter.onScreen y₂
    call (interpreter.device.swipe x₁' y₁' x₂' y₂')
  | .input =>
    match Gesture.inputParts? action with
    | some parts => interpreter.input action parts
    | none => return none
  | .malformed => return none
  | .unknown => do
    Routine.say .debug ("忽略无法识别的动作: ".toList ++ action)
    return none

/-- Leaves a message about a soft error. -/
def report {σ : Type} : Option SoftError → Routine σ Unit
  | some error => Routine.say .error error.message
  | none => pure ()

/-- Carries out an action, leaves a message if it is refused, and pauses. -/
def performOne (interpreter : Interpreter δ) (action : Text) :
    Routine (Site δ) (Option SoftError) := do
  let error ← interpreter.perform action.trim
  report error
  interpreter.rest
  return error

/-- Carries out actions one after the other. -/
def performAll (interpreter : Interpreter δ) : List Text → Routine (Site δ) (List SoftError)
  | [] => return []
  | action :: actions => do
    let error ← interpreter.performOne action
    let errors ← interpreter.performAll actions
    return error.toList ++ errors

end Interpreter

end ScreenScript
