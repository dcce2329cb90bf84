import ScreenScript.Disk.Access
import ScreenScript.Script.Compilation

/-!
# Script files

A script is compiled from a file, and the macros that it may call come from another file, which need
not be there.
-/

namespace ScreenScript.Source

/-- Breaks off because of an error in a script. -/
def orFail {α : Type} : Except ScriptError α → Routine Disk α := Routine.ofExcept .script

/-- The lines of a file. -/
def readLines (path : Path) : Routine Disk (List Text) := do return (← Disk.readText path).lines

/-- The macros of a file; none if there is no file. -/
def loadMacros (path : Path) : Routine Disk MacroTable := do
  if ← Disk.checkExists path then do
    let table ← orFail (MacroTable.ofLines (← readLines path))
    Routine.say .debug ("已加载 ".toList ++ Text.ofNat table.length ++ " 个宏: ".toList ++ path.toText)
    return table
  else do
    Routine.say .debug ("宏文件不存在，跳过: ".toList ++ path.toText)
    return []

/-- Messages about commands that were ignored. -/
def sayIgnored {σ : Type} : List Text → Routine σ Unit
  | [] => pure ()
  | command :: rest => do
    Routine.say .debug ("忽略无效的 wait 参数: ".toList ++ command)
    sayIgnored rest

/-- The tasks of a script whose macros are expanded. -/
def compileLines {σ : Type} (stream : DigitStream) (maxRepeats : Int) (lines : List Text) :
    Routine σ (List Task) := do
  let compilation := Compilation.ofLines stream 0 maxRepeats lines
  sayIgnored compilation.ignored
  Routine.ofExcept .script compilation.result

/-- The tasks of a script file. -/
def compileFile (stream : DigitStream) (script : Path) (macros : Option Path) (maxRepeats : Int) :
    Routine Disk (List Task) := do
  if ← Disk.checkExists script then do
    Routine.say .info ("编译脚本: ".toList ++ script.toText)
    let lines ← readLines script
    let table ← match macros with
      | some path => loadMacros path
      | none => pure []
    let tasks ← compileLines stream maxRepeats (← orFail (table.expand lines))
    Routine.say .info ("脚本编译完成，共 ".toList ++ Text.ofNat tasks.length ++ " 个任务".toList)
    return tasks
  else
    Routine.fail (.script (.malformed (.missingFile script.toText) []))

end ScreenScript.Source
