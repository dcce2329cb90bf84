import ScreenScript.Config.Settings
import ScreenScript.Text.Digit

/-!
# The command line

At most one word names the folder of the workspace. Options begin with a hyphen and may be shortened as
long as only one is meant; their value follows behind `=` or as the next word. Behind `--` nothing is an
option, and neither is a lone hyphen, a negative number, or a word with a space that is no option.

What every word is gets decided before any of them takes effect, so a word that could be several options
is found even behind a request for help.

The rules have changed once: `--` behind `=` was nothing and became a word, and a request for help of one letter
needed to be nothing else and became one whatever other letters are behind it, but not with a value any more.

* `CommandLine.Release` — whether the rules are the earlier or the later ones
* `CommandLine.classify` — what a word is
* `CommandLine.read` — what a command line asks for
-/

namespace ScreenScript

/-- The value that an option has been given. -/
inductive OptionValue
  /-- the option is not there -/
  | absent
  /-- the word behind `=` is `--`, which leaves nothing -/
  | nothing
  /-- this word -/
  | word (t : Text)
  deriving DecidableEq, Repr, Inhabited

/-- The word, if it has any characters. -/
def OptionValue.nonempty? : OptionValue → Option Text
  | word t => if t = [] then none else some t
  | _ => none

/-- The rules by which a command line is read. -/
inductive CommandLine.Release
  /-- the earlier ones -/
  | earlier
  /-- the later ones -/
  | later
  deriving DecidableEq, Repr, Inhabited

/-- The value that a word behind `=` gives. -/
def OptionValue.ofText : CommandLine.Release → Text → OptionValue
  | .earlier, t => if t = "--".toList then .nothing else .word t
  | .later, t => .word t

/-- What a command line asks for. -/
structure CommandLine where
  /-- the folder of the workspace -/
  workingDir : Option Text := none
  /-- the serial number of the device -/
  serial : OptionValue := .absent
  /-- the program of the bridge -/
  bridgeProgram : OptionValue := .absent
  deriving DecidableEq, Repr, Inhabited

/-- Why a command line asks for no run. -/
inductive CommandLineExit
  /-- it asks for help -/
  | help
  /-- it cannot be understood -/
  | usage
  deriving DecidableEq, Repr, Inhabited

/-- The code that the program ends with. -/
def CommandLineExit.code : CommandLineExit → Int
  | help => 0
  | usage => 2

namespace CommandLine

/-- An option. -/
inductive Flag
  /-- help -/
  | help
  /-- the serial number of the device -/
  | serial
  /-- the program of the bridge -/
  | program
  deriving DecidableEq, Repr, Inhabited

/-- The names of the options. -/
def flags : List (Text × Flag) :=
  [("-h".toList, .help), ("--help".toList, .help), ("--serial".toList, .serial),
    ("--adb-path".toList, .program)]

/-- What a word is. -/
inductive Word
  /-- a value, or the folder -/
  | plain (t : Text)
  /-- an option with two hyphens or on its own, and the value that is part of the word -/
  | flag (flag : Flag) (value : Option Text)
  /-- the option of one letter for help, with letters or a value behind it -/
  | cluster (rest : Text)
  /-- something that looks like an option and is none -/
  | unknown
  deriving DecidableEq, Repr, Inhabited

/-- A word cut at its first `=`. -/
def cutValue (t : Text) : Text × Option Text :=
  match t.dropWhile (· ≠ '=') with
  | [] => (t, none)
  | _ :: value => (t.takeWhile (· ≠ '='), some value)

/-- The option with this very name. -/
def flag? (name : Text) : Option Flag := (flags.find? fun (other, _) => other = name).map Prod.snd

/-- The options whose names start so. -/
def flagsFrom (start : Text) : List Flag :=
  (flags.filter fun (name, _) => start.isPrefixOf name).map Prod.snd

/-- Digits, at least one. -/
def isNumeral (t : Text) : Bool := !t.isEmpty && t.all Text.isDigit

/-- The text without one line feed at its end. -/
def withoutLineFeed (t : Text) : Text := if t.getLast? = some '\n' then t.dropLast else t

/-- Whether a word is a negative number. A line feed behind it does not count. -/
def isNegative (t : Text) : Bool :=
  match withoutLineFeed t with
  | '-' :: t =>
    isNumeral t || match t.dropWhile Text.isDigit with
      | '.' :: places => isNumeral places
      | _ => false
  | _ => false

/-- What a word is that starts with a hyphen and is not the name of an option. -/
def otherWord (t : Text) : Word :=
  if isNegative t || t.elem ' ' then .plain t else .unknown

/-- What a word with two hyphens at its start is, unless it could be several options. -/
def longWord (t : Text) : Except CommandLineExit Word :=
  let (name, value) := cutValue t
  match flagsFrom name with
  | [flag] => .ok (.flag flag value)
  | [] => .ok (otherWord t)
  | _ => .error .usage

/-- What a word is, unless it could be several options. -/
def classify (t : Text) : Except CommandLineExit Word :=
  match t, flag? t with
  | _, some flag => .ok (.flag flag none)
  | '-' :: '-' :: _, none => longWord t
  | '-' :: 'h' :: rest, none => .ok (.cluster rest)
  | '-' :: _ :: _, none => .ok (otherWord t)
  | _, none => .ok (.plain t)

/-- What is asked for by what stands behind the option of one letter for help. By the earlier rules these may only
be further letters for help, also behind `=`; by the later ones they may be anything but a value or a hyphen behind
such letters. -/
def readCluster : Release → Text → CommandLineExit
  | .earlier, rest =>
    let letters := match rest with
      | '=' :: letters => letters
      | letters => letters
    if letters ≠ [] && letters.all (· = 'h') then .help else .usage
  | .later, rest =>
    match rest.dropWhile (· = 'h') with
    | '=' :: _ | '-' :: _ => .usage
    | _ => .help

/-- The command line with the value of an option. -/
def put (line : CommandLine) (value : OptionValue) : Flag → CommandLine
  | .serial => { line with serial := value }
  | .program => { line with bridgeProgram := value }
  | .help => line

/-- What was read so far. -/
structure Progress where
  /-- what the command line asks for -/
  line : CommandLine := {}
  /-- whether a word was read that has no place -/
  stray : Bool := false
  /-- whether the last word was the folder -/
  afterFolder : Bool := false
  deriving DecidableEq, Repr, Inhabited

/-- Ends the reading. -/
def Progress.finish (progress : Progress) : Except CommandLineExit CommandLine :=
  if progress.stray then .error .usage else .ok progress.line

/-- Reads the words behind `--`. -/
def Progress.readRest (progress : Progress) (words : List Text) : Progress :=
  match progress.line.workingDir, words with
  | none, [] => progress
  | none, [word] => { progress with line := { progress.line with workingDir := some word } }
  | none, _ :: _ :: _ => { progress with stray := true }
  | some _, [] => { progress with stray := progress.stray || !progress.afterFolder }
  | some _, _ :: _ => { progress with stray := true }

/-- Reads the value of an option. -/
def Progress.readValue (progress : Progress) (flag : Flag) (value : OptionValue) : Progress :=
  { progress with line := progress.line.put value flag, afterFolder := false }

/-- Reads words, one after the other, and then those behind `--` if there are any. -/
def readFrom (release : Release) (rest : Option (List Text)) :
    Progress → List Word → Except CommandLineExit CommandLine
  | progress, [] => (rest.elim progress progress.readRest).finish
  | progress, .plain t :: words =>
    match progress.line.workingDir with
    | none => readFrom release rest
        { progress with line := { progress.line with workingDir := some t }, afterFolder := true } words
    | some _ => readFrom release rest { progress with stray := true, afterFolder := false } words
  | _, .flag .help none :: _ => .error .help
  | _, .flag .help (some _) :: _ => .error .usage
  | _, .cluster letters :: _ => .error (readCluster release letters)
  | progress, .flag flag (some value) :: words =>
    readFrom release rest (progress.readValue flag (.ofText release value)) words
  | progress, .flag flag none :: .plain value :: words =>
    readFrom release rest (progress.readValue flag (.word value)) words
  | _, .flag _ none :: _ => .error .usage
  | progress, .unknown :: words => readFrom release rest { progress with stray := true, afterFolder := false } words

/-- What a command line asks for. -/
def read (release : Release) (words : List Text) : Except CommandLineExit CommandLine := do
  let divider := "--".toList
  let classified ← (words.takeWhile (· ≠ divider)).mapM classify
  let rest := (words.dropWhile (· ≠ divider)).tail?
  readFrom release rest {} classified

/-- The settings with what the command line asks for; empty words ask for nothing. -/
def override (line : CommandLine) (settings : Settings) : Settings :=
  { settings with
    workingDir := (line.workingDir.filter fun t => t ≠ []).getD settings.workingDir
    serial := line.serial.nonempty?.or settings.serial
    bridgeProgram := line.bridgeProgram.nonempty?.getD settings.bridgeProgram }

end CommandLine

end ScreenScript
