import ScreenScript.Text.Basic

/-!
# Errors in scripts

What is wrong with the structure of a script or of its macros, and the line that shows it. A number
that is too long to be read is not an error of the structure and has no line.
-/

namespace ScreenScript

/-- What is wrong with the structure of a script. -/
inductive ScriptFault
  /-- a definition begins before this one has ended -/
  | nestedMacro (name : Text)
  /-- the end of a definition that has not begun -/
  | strayMacroEnd
  /-- the definition that does not end -/
  | unclosedMacro (name : Text)
  /-- a call of a macro that is not defined -/
  | undefinedMacro (name : Text)
  /-- a step begins before this one has ended -/
  | unfinishedStep (name : Text)
  /-- the end of a step that has not begun -/
  | strayEnd
  /-- the step that does not end -/
  | unclosedStep (name : Text)
  /-- there is no such script file -/
  | missingFile (path : Text)
  deriving DecidableEq, Repr

namespace ScriptFault

/-- The fault in words. -/
def message : ScriptFault → Text
  | nestedMacro name => "Nested or unclosed macro detected: ".toList ++ name
  | strayMacroEnd => "'endMacro' found without matching 'macro'".toList
  | unclosedMacro name => "Unclosed macro detected: ".toList ++ name
  | undefinedMacro name => "Undefined macro: ".toList ++ name
  | unfinishedStep name =>
    "Step '".toList ++ name ++ "' is missing 'end' before a new step begins.".toList
  | strayEnd => "'end' found without a matching 'step'.".toList
  | unclosedStep name => "Step '".toList ++ name ++ "' is missing 'end'.".toList
  | missingFile path => "Script file '".toList ++ path ++ "' not found.".toList

end ScriptFault

/-- Why a script has no tasks. -/
inductive ScriptError
  /-- its structure is wrong; the line that shows it is empty if that is the end of the script -/
  | malformed (fault : ScriptFault) (line : Text)
  /-- a placeholder asks for a number of digits that is too long to be read -/
  | oversizePlaceholder
  deriving DecidableEq, Repr

end ScreenScript
