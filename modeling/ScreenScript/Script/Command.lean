import ScreenScript.Script.Keyword
import ScreenScript.Script.Task
import ScreenScript.Text.Integer

/-!
# Lines of a script

What a line of a script can be, judged by its own text alone: a single command, the opening of a step,
the header of a part of a step, something to remember, or the end of a step. Which of these readings
counts depends on where the line stands, and is decided by the compilation.
-/

namespace ScreenScript

/-- What a line says as a single command. -/
inductive Command
  /-- this task -/
  | task (task : Task)
  /-- a command that asks for nothing, since its argument cannot be read -/
  | ignored
  /-- no command -/
  | other
  deriving DecidableEq, Repr

namespace Command

/-- The commands without an argument. -/
def words : List (Text × Task) :=
  [("install".toList, .install), ("back".toList, .back), ("home".toList, .home),
    ("recent".toList, .recentApps)]

/-- The commands whose argument is the name of a package. -/
def packageWords : List (Text × (Text → Task)) :=
  [("uninstall ".toList, .uninstall), ("cleardata ".toList, .clearData), ("open ".toList, .openApp)]

/-- The keyword of the command that waits. -/
def waitWord : Text := "wait ".toList

/-- The keyword of the command that begins a new description. -/
def descriptionWord : Text := "description:".toList

/-- The command among those without an argument. -/
def ofWord? (line : Text) : Option Task :=
  (words.find? fun (word, _) => word = line.lower).map Prod.snd

/-- The command among those with a package. -/
def ofPackage? (line : Text) : Option Task :=
  packageWords.findSome? fun (word, make) => (Keyword.argument? word line).map make

/-- The single command that a line is. -/
def ofLine (line : Text) : Command :=
  match ofWord? line with
  | some result => task result
  | none =>
    match ofPackage? line with
    | some result => task result
    | none =>
      match Keyword.argument? waitWord line with
      | some argument =>
        match Text.readInt? argument with
        | some seconds => task (.wait (.int seconds))
        | none => ignored
      | none =>
        match Keyword.argument? descriptionWord line with
        | some text => task (.description text)
        | none => other

end Command

/-- A part of a step. -/
inductive Part
  /-- before the first header -/
  | preamble
  /-- what has to be true -/
  | assertions
  /-- what is to be done -/
  | actions
  /-- what is to be remembered -/
  | memories
  deriving DecidableEq, Repr, Inhabited

/-- What a line says inside a step, or where it is no single command. -/
inductive Line
  /-- a step of this kind and name begins -/
  | opens (kind : StepKind) (name : Text)
  /-- a part of a step begins -/
  | header (part : Part)
  /-- something to remember -/
  | memory (text : Text)
  /-- the step ends -/
  | closes
  /-- anything else; it belongs to the part it stands in -/
  | content
  deriving DecidableEq, Repr

namespace Line

/-- The keywords that open a step. -/
def openers : List (Text × StepKind) :=
  [("step ".toList, .normal), ("repeating step ".toList, .repeating),
    ("creative step ".toList, .creative)]

/-- The headers of the parts of a step. -/
def headers : List (Text × Part) :=
  [("assertions:".toList, .assertions), ("actions:".toList, .actions),
    ("remember".toList, .memories), ("remember:".toList, .memories)]

/-- The keyword of a line that is remembered. -/
def memoryWord : Text := "remember ".toList

/-- What ends a step. -/
def closer : Text := "end".toList

/-- The kind and name of the step that a line opens. -/
def opening? (line : Text) : Option (StepKind × Text) :=
  openers.findSome? fun (word, kind) => (Keyword.argument? word line).map fun name => (kind, name)

/-- The part that a line is the header of. -/
def header? (line : Text) : Option Part :=
  (headers.find? fun (word, _) => word = line.lower).map Prod.snd

/-- What a line says. -/
def read (line : Text) : Line :=
  match opening? line with
  | some (kind, name) => opens kind name
  | none =>
    match header? line with
    | some part => header part
    | none =>
      match Keyword.argument? memoryWord line with
      | some text => memory text
      | none => if line.lower = closer then closes else content

end Line

end ScreenScript
