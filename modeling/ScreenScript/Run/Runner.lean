import ScreenScript.Run.Screen

/-!
# Running a script

The tasks of a script are carried out in order until one fails. At the end the vision service is asked
to sum the run up; whether it does has no influence on the result.

* `Engine.execute` — one task
* `Engine.executeAll` — the tasks in order, up to the first one that fails
* `Engine.run` — the whole run
-/

namespace ScreenScript

/-- What marks an action that ends a repeating step. -/
def stopMark : Text := "stop".toList

/-- Whether one of the actions ends a repeating step. -/
def hasStop (actions : List Text) : Bool :=
  actions.any fun action => Text.contains stopMark action.lower

namespace Engine

variable {δ : Type}

/-- Waits after a call of the device, whatever it answered, and hands the answer on. -/
def settle (m : Routine (Site δ) Bool) (delay : Int) : Routine (Session δ) Bool := do
  let ok ← Session.onSite m
  Routine.pause (.int delay)
  return ok

/-- Processes a repeating step up to `rounds` more times, `done` times after it was first processed. -/
def repeatStep (engine : Engine δ) (task : StepTask) : Nat → Nat → Routine (Session δ) Bool
  | 0, _ => do
    say .error ("重复步骤 '".toList ++ task.step.name ++ "' 达到最大次数 ".toList ++
      Text.ofInt task.maxRepeats ++ " 仍未完成".toList)
    return false
  | rounds + 1, done => do
    match ← engine.processStep task with
    | none => return false
    | some response =>
      if hasStop (response.actions.getD []) then do
        say .info ("重复步骤 '".toList ++ task.step.name ++ "' 在第 ".toList ++ Text.ofNat (done + 1) ++
          " 次完成".toList)
        return true
      else
        engine.repeatStep task rounds (done + 1)

/-- Carries out a step: a repeating one until the service asks to stop, any other one once. -/
def executeStep (engine : Engine δ) (task : StepTask) : Routine (Session δ) Bool :=
  match task.kind with
  | .repeating => engine.repeatStep task task.maxRepeats.toNat 0
  | _ => do return (← engine.processStep task).isSome

/-- How many milliseconds a second has. -/
def millisecondsPerSecond : Int := 1000

/-- Waits for some seconds. -/
def waitFor (seconds : Scalar) : Routine (Session δ) Bool := do
  Routine.pause (← Routine.ofExcept .arithmetic (seconds.times millisecondsPerSecond))
  return true

/-- Carries out a task; the result is whether it went well. -/
def execute (engine : Engine δ) : Task → Routine (Session δ) Bool
  | .description text => do
    Session.changeContext fun context => context.describe text
    return true
  | .install => settle engine.device.install engine.intervals.longDelay
  | .uninstall package => settle (engine.device.uninstall package) engine.intervals.shortDelay
  | .clearData package => settle (engine.device.clearData package) engine.intervals.shortDelay
  | .openApp package => settle (engine.device.openApp package) engine.intervals.longDelay
  | .back => settle engine.device.back engine.intervals.actionDelay
  | .home => settle engine.device.home engine.intervals.shortDelay
  | .recentApps => settle engine.device.recent engine.intervals.actionDelay
  | .wait seconds => waitFor seconds
  | .screen task => engine.executeStep task
  | .foreign what => Routine.fail (.foreignTask what)

/-- Messages about all that was seen. -/
def saySeen : List Text → Routine (Session δ) Unit
  | [] => pure ()
  | item :: rest => do
    say .debug ("上下文: ".toList ++ item)
    saySeen rest

/-- Carries out tasks in order until one fails, given how many of the `total` were carried out before;
the result is whether none failed. -/
def executeAll (engine : Engine δ) (total : Nat) : Nat → List Task → Routine (Session δ) Bool
  | _, [] => return true
  | done, task :: tasks => do
    let shown ← Routine.ofExcept .arithmetic task.toText
    say .info ("执行任务 ".toList ++ Text.ofNat (done + 1) ++ "/".toList ++ Text.ofNat total ++ ": ".toList ++
      shown)
    if ← engine.execute task then do
      Routine.pause (.int engine.intervals.actionDelay)
      saySeen (← Session.getContext).seen
      engine.executeAll total (done + 1) tasks
    else do
      say .error "任务失败，停止执行".toList
      return false

/-- The text of something that may be absent. -/
def optionText : Option Text → Text
  | some t => t
  | none => "None".toList

/-- Asks the service to sum the run up. -/
def summarize (engine : Engine δ) (script : Text) : Routine (Session δ) Unit := do
  let context ← Session.getContext
  match ← (Session.onService (engine.service.summarize script context.joined)).attempt serviceFault with
  | .error fault => say .warning ("获取运行总结失败: ".toList ++ fault.message)
  | .ok summary => do
    say .info ("状态: ".toList ++ optionText summary.status)
    say .info ("总结: ".toList ++ optionText summary.summary)

/-- Runs a script; the result is whether the device was there and every task went well. -/
def run (engine : Engine δ) (tasks : List Task) (script : Text) : Routine (Session δ) Bool := do
  if ← Session.onSite engine.device.isConnected then do
    say .info "开始执行脚本...".toList
    if ← engine.executeAll tasks.length 0 tasks then do
      engine.summarize script
      say .info "脚本执行完成".toList
      return true
    else
      return false
  else do
    say .error "未检测到设备/模拟器，请先连接设备".toList
    return false

end Engine

end ScreenScript
