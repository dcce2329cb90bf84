import ScreenScript.Picture.File
import ScreenScript.Run.Interpreter
import ScreenScript.Run.Session

/-!
# Processing a step

A step is processed once: a screenshot is taken and sent to the vision service together with what is
known, and the actions of the response are carried out. The response is rejected if it has no list of
actions, or if something that has to be true is not, unless that is marked as optional.

* `Engine.requestFor` — what is sent
* `StepResponse.isAccepted` — which responses are accepted
* `Engine.processStep` — the whole, with the response if it was accepted
-/

namespace ScreenScript

/-- What marks an assertion that need not hold. -/
def optionalMark : Text := "optional".toList

/-- Whether all assertions that failed are marked as optional. -/
def onlyOptional (failed : List Text) : Bool :=
  failed.all fun assertion => Text.contains optionalMark assertion.lower

namespace StepResponse

/-- Whether the actions of a response are carried out. -/
def isAccepted (response : StepResponse) : Bool :=
  response.actions.isSome && onlyOptional (response.failedAssertions.getD [])

end StepResponse

namespace Engine

variable {δ : Type}

/-- Leaves a message. -/
def say (level : Level) (message : Text) : Routine (Session δ) Unit := Routine.say level message

/-- The request for a step. -/
def requestFor (task : StepTask) (context : RunContext) (image : EncodedImage) : StepRequest where
  image := image
  stepName := task.step.name
  description := context.description
  assertions := task.step.assertions
  actions := task.step.actions
  temperature := .real task.kind.temperature
  context := context.joined
  previous := context.previous
  isLast := task.step.isLast

/-- Faults of the vision service. -/
def serviceFault : Fault → Option VisionFault
  | .vision fault => some fault
  | _ => none

/-- Messages about single assertions. -/
def sayEach : List Text → Routine (Session δ) Unit
  | [] => pure ()
  | assertion :: rest => do
    say .info ("   - ".toList ++ assertion)
    sayEach rest

/-- The messages about assertions that failed. -/
def sayFailed (step : Step) (failed : List Text) : Routine (Session δ) Unit := do
  if failed ≠ [] then do
    say .info ("步骤 '".toList ++ step.name ++ "' 以下断言未通过:".toList)
    sayEach failed
    if onlyOptional failed then
      say .info "仅可选断言未通过，继续执行".toList
    else
      say .error "存在必需断言未通过，停止执行".toList

/-- The messages about assertions that passed. -/
def sayPassed (step : Step) (passed : List Text) : Routine (Session δ) Unit := do
  if passed ≠ [] then do
    say .info ("步骤 '".toList ++ step.name ++ "' 以下断言通过:".toList)
    sayEach passed
    say .info (Text.ofNat passed.length ++ " / ".toList ++ Text.ofNat step.assertions.length ++
      " 通过".toList)

/-- The interpreter for actions on the last screenshot. -/
def interpreter (engine : Engine δ) (context : RunContext) : Interpreter δ where
  device := engine.device
  factor := context.factor
  delay := engine.intervals.actionDelay

/-- Carries out the actions of a response that was accepted. -/
def carryOut (engine : Engine δ) (step : Step) (response : StepResponse) (actions : List Text) :
    Routine (Session δ) Unit := do
  sayPassed step (response.passedAssertions.getD [])
  let seen := response.context.getD []
  if seen ≠ [] then
    Session.changeContext fun context => context.append seen
  say .info ("动作: ".toList ++ ", ".toList.intercalate actions)
  let context ← Session.getContext
  let errors ← Session.onSite ((engine.interpreter context).performAll actions)
  if errors ≠ [] then
    say .warning ("步骤 '".toList ++ step.name ++ "' 有 ".toList ++ Text.ofNat errors.length ++
      " 个动作执行出错".toList)

/-- Decides on a response, and carries out its actions if it is accepted. -/
def answer (engine : Engine δ) (step : Step) (response : StepResponse) :
    Routine (Session δ) (Option StepResponse) := do
  Session.changeContext fun context => { context with previous := response.requestId }
  match response.actions with
  | none => do
    say .error ("视觉服务响应中没有动作列表: ".toList ++ step.name)
    return none
  | some actions => do
    sayFailed step (response.failedAssertions.getD [])
    if response.isAccepted then do
      engine.carryOut step response actions
      return some response
    else
      return none

/-- Sends a screenshot to the service and acts on the response. -/
def consult (engine : Engine δ) (task : StepTask) (image : EncodedImage) :
    Routine (Session δ) (Option StepResponse) := do
  let context ← Session.getContext
  say .info ("发送截图至视觉服务: ".toList ++ task.step.name)
  let request := requestFor task context image
  match ← (Session.onService (engine.service.processStep request)).attempt serviceFault with
  | .error fault => do
    say .error ("视觉服务处理失败 [".toList ++ task.step.name ++ "]: ".toList ++ fault.message)
    return none
  | .ok response => engine.answer task.step response

/-- Processes a step once. The response is the result if it was accepted. -/
def processStep (engine : Engine δ) (task : StepTask) : Routine (Session δ) (Option StepResponse) := do
  say .info ("处理步骤画面: ".toList ++ task.step.name)
  match ← Session.onSite (engine.device.screenshot task.step) with
  | none => do
    say .error "获取截图失败".toList
    return none
  | some screenshot => do
    Session.changeContext fun context => { context with factor := screenshot.factor }
    say .debug "截图编码为 Base64".toList
    match ← Session.onDisk (Picture.encodeFile screenshot.path) with
    | none => do
      say .error "截图编码失败".toList
      return none
    | some image => engine.consult task image

end Engine

end ScreenScript
