import ScreenScript.Script.Error
import ScreenScript.Text.Blank

/-!
# Macros

A macro is a named list of lines. A file of macros holds definitions between `macro name` and
`endMacro`; a script calls a macro by a line `m name`, which stands for the lines of the macro. The
lines put in are not expanded again.

* `MacroTable.ofLines` — the definitions of a file
* `MacroTable.expand` — a script with its calls replaced
-/

namespace ScreenScript

/-- Whether a line counts: it is neither blank nor a comment. The line has no blanks at its ends. -/
def Text.isSignificant (t : Text) : Bool := !t.isEmpty && t.head? ≠ some '#'

/-- Macros by name, each name once, in the order in which the names were first defined. -/
abbrev MacroTable := List (Text × List Text)

namespace MacroTable

/-- The lines of a macro. -/
def lookup? (name : Text) : MacroTable → Option (List Text)
  | [] => none
  | (n, body) :: rest => if n = name then some body else lookup? name rest

/-- The table with a macro defined, in place of an earlier definition. -/
def define (name : Text) (body : List Text) : MacroTable → MacroTable
  | [] => [(name, body)]
  | (n, old) :: rest => if n = name then (n, body) :: rest else (n, old) :: define name body rest

/-! ## Definitions -/

/-- What a definition begins with. -/
def opener : Text := "macro ".toList

/-- What a definition ends with. -/
def closer : Text := "endMacro".toList

/-- What a call begins with. -/
def call : Text := "m ".toList

/-- The definitions read so far, and the one that has begun with its lines, the latest first. -/
structure Progress where
  /-- the finished definitions -/
  table : MacroTable := []
  /-- the name and the lines of the definition that has begun -/
  opened : Option (Text × List Text) := none
  deriving DecidableEq, Repr

/-- Reads one line of a file of macros. -/
def readLine (progress : Progress) (line : Text) : Except ScriptError Progress :=
  let trimmed := line.trim
  if !trimmed.isSignificant then
    .ok progress
  else if opener.isPrefixOf trimmed then
    match progress.opened with
    | some (name, _) => .error (.malformed (.nestedMacro name) line)
    | none => .ok { progress with opened := some (Text.trim (trimmed.drop opener.length), []) }
  else if trimmed = closer then
    match progress.opened with
    | some (name, body) => .ok { table := progress.table.define name body.reverse }
    | none => .error (.malformed .strayMacroEnd line)
  else
    match progress.opened with
    | some (name, body) => .ok { progress with opened := some (name, trimmed :: body) }
    | none => .ok progress

/-- Reads the lines of a file of macros, one after the other. -/
def readLines : Progress → List Text → Except ScriptError Progress
  | progress, [] => .ok progress
  | progress, line :: rest =>
    match readLine progress line with
    | .ok next => readLines next rest
    | .error error => .error error

/-- The macros that some lines define. -/
def ofLines (lines : List Text) : Except ScriptError MacroTable :=
  match readLines {} lines with
  | .error error => .error error
  | .ok progress =>
    match progress.opened with
    | some (name, _) => .error (.malformed (.unclosedMacro name) [])
    | none => .ok progress.table

/-! ## Calls -/

/-- The name that a line calls, if it is a call. -/
def called? (line : Text) : Option Text :=
  if call.isPrefixOf line.trim then some (Text.trim (line.trim.drop call.length)) else none

/-- The lines of a script with each call replaced by the lines of its macro. -/
def expand (table : MacroTable) : List Text → Except ScriptError (List Text)
  | [] => .ok []
  | line :: rest =>
    match called? line with
    | none =>
      match expand table rest with
      | .ok lines => .ok (line :: lines)
      | .error error => .error error
    | some name =>
      match table.lookup? name with
      | none => .error (.malformed (.undefinedMacro name) line)
      | some body =>
        match expand table rest with
        | .ok lines => .ok (body ++ lines)
        | .error error => .error error

/-! ## Small laws -/

theorem lookup?_define (table : MacroTable) (name other : Text) (body : List Text) :
    (table.define name body).lookup? other =
      if other = name then some body else table.lookup? other := by
  induction table with
  | nil => simp only [define, lookup?, eq_comm]
  | cons entry rest ih =>
    obtain ⟨n, old⟩ := entry
    by_cases h : n = name
    · subst h
      by_cases ho : n = other
      · simp [define, lookup?, ho]
      · simp [define, lookup?, ho, Ne.symm ho]
    · by_cases ho : n = other
      · subst ho
        simp [define, lookup?, h]
      · simp only [define, if_neg h, lookup?, if_neg ho, ih]

theorem readLines_append (progress : Progress) (xs ys : List Text) :
    readLines progress (xs ++ ys) = (readLines progress xs).bind fun p => readLines p ys := by
  induction xs generalizing progress with
  | nil => rfl
  | cons x xs ih =>
    simp only [List.cons_append, readLines]
    cases readLine progress x with
    | error e => rfl
    | ok p => exact ih p

end MacroTable

end ScreenScript
