import ScreenScript.Script.Command
import ScreenScript.Script.Error
import ScreenScript.Script.Macro
import ScreenScript.Script.Placeholder

/-!
# Compilation

A script is read line by line. Outside a step, single commands give tasks; a step collects its parts
until it ends, and then gives a task. After the last line, no step may be open, and the last step of
the script is marked.

* `Draft` — what has been collected so far
* `Draft.readLine` — what one significant line does
* `Compilation.ofLines` — the whole script: its tasks or an error, and what was collected
-/

namespace ScreenScript

/-- What the lines read so far have given. -/
structure Draft where
  /-- the finished tasks -/
  tasks : List Task := []
  /-- the kind of the open step, if one is open -/
  opened : Option StepKind := none
  /-- the part that lines are added to -/
  part : Part := .preamble
  /-- the name of the step opened last -/
  name : Text := []
  /-- its assertions so far -/
  assertions : List Text := []
  /-- its actions so far -/
  actions : List Text := []
  /-- what it remembers so far -/
  memories : List Text := []
  deriving DecidableEq, Repr, Inhabited

namespace Draft

/-- The draft in which the open step has become a task. -/
def close (draft : Draft) (kind : StepKind) (maxRepeats : Int) : Draft :=
  let step : Step := { name := draft.name, assertions := draft.assertions, actions := draft.actions }
  { draft with
    tasks := draft.tasks ++ [.screen { step, kind, maxRepeats }]
    opened := none
    part := .preamble }

/-- The draft with a line added to its current part. Lines before the first header are lost. -/
def add (draft : Draft) (line : Text) : Draft :=
  match draft.part with
  | .preamble => draft
  | .assertions => { draft with assertions := draft.assertions ++ [line] }
  | .actions => { draft with actions := draft.actions ++ [line] }
  | .memories => { draft with memories := draft.memories ++ [line] }

/-- What a line does that is no single command. `raw` is the line as it stands in the script. -/
def readStepLine (maxRepeats : Int) (draft : Draft) (line raw : Text) : Except ScriptError Draft :=
  match Line.read line with
  | .opens kind name =>
    match draft.opened with
    | some _ => .error (.malformed (.unfinishedStep draft.name) raw)
    | none => .ok
      { draft with
        opened := some kind, name, part := .preamble, assertions := [], actions := [], memories := [] }
  | .header part => .ok { draft with part }
  | .memory text => .ok
    { draft with
      part := .memories
      memories := if text = [] then draft.memories else draft.memories ++ [text] }
  | .closes =>
    match draft.opened with
    | some kind => .ok (draft.close kind maxRepeats)
    | none => .error (.malformed .strayEnd raw)
  | .content => .ok (draft.add line)

/-- What a line does. Outside a step, single commands come first. -/
def readLine (maxRepeats : Int) (draft : Draft) (line raw : Text) : Except ScriptError Draft :=
  if draft.opened.isSome then
    readStepLine maxRepeats draft line raw
  else
    match Command.ofLine line with
    | .task task => .ok { draft with tasks := draft.tasks ++ [task] }
    | .ignored => .ok draft
    | .other => readStepLine maxRepeats draft line raw

/-- Whether a line is a command outside a step whose argument cannot be read. -/
def ignores (draft : Draft) (line : Text) : Bool :=
  draft.opened.isNone && Command.ofLine line = .ignored

end Draft

/-- What came of a script, or of some of its lines. -/
structure Compilation where
  /-- what was collected, up to the error if there is one -/
  draft : Draft
  /-- how many random digits have been drawn -/
  drawn : Nat
  /-- the commands that were ignored since their argument cannot be read -/
  ignored : List Text
  /-- what is wrong with the script -/
  error : Option ScriptError
  deriving DecidableEq, Repr

namespace Compilation

/-- Reads some lines, given what was collected and drawn before them. -/
def scan (stream : DigitStream) (maxRepeats : Int) : Draft → Nat → List Text → Compilation
  | draft, drawn, [] => ⟨draft, drawn, [], none⟩
  | draft, drawn, raw :: rest =>
    if !raw.trim.isSignificant then
      scan stream maxRepeats draft drawn rest
    else
      match Placeholder.substitute stream drawn raw.trim with
      | (none, drawn) => ⟨draft, drawn, [], some .oversizePlaceholder⟩
      | (some line, drawn) =>
        match draft.readLine maxRepeats line raw with
        | .error error => ⟨draft, drawn, [], some error⟩
        | .ok next =>
          let ignored := if draft.ignores line then [line] else []
          let later := scan stream maxRepeats next drawn rest
          { later with ignored := ignored ++ later.ignored }

/-- Ends a script: no step may be open, and the last step is marked. -/
def finish (compilation : Compilation) : Compilation :=
  match compilation.error with
  | some _ => compilation
  | none =>
    let draft := compilation.draft
    if draft.opened.isSome then
      { compilation with error := some (.malformed (.unclosedStep draft.name) []) }
    else
      { compilation with draft := { draft with tasks := Task.markLast draft.tasks } }

/-- Compiles the lines of a script, given how many digits have been drawn before. -/
def ofLines (stream : DigitStream) (drawn : Nat) (maxRepeats : Int) (lines : List Text) :
    Compilation :=
  (scan stream maxRepeats {} drawn lines).finish

/-- The tasks of the script, or what is wrong with it. -/
def result (compilation : Compilation) : Except ScriptError (List Task) :=
  match compilation.error with
  | some error => .error error
  | none => .ok compilation.draft.tasks

end Compilation

end ScreenScript
