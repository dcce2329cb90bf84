import ScreenScript.Disk.Access

/-!
# Journal

Messages go to sinks: the console, from a level on that is set, and the file of a session, which takes
everything but the least level. A sink has a number of its own, which is never used again. The journal
remembers the number of the sink of the session, so that another session can take its place.

What a sink is, and that the path of a file may stand for another one, is the affair of a library. If no other one
is given, the path is a template in which `{time}` stands for the time, so other braces do not stand for themselves.

* `Stamp.Documented` — what is documented of paths
* `Journal.setUp` — removes all sinks and adds the console if it is wanted
* `Journal.beginSession` — adds the file of a session in place of the one before
* `Journal.write` — a message to all sinks that take it
-/

namespace ScreenScript

/-- A stream of the console. -/
inductive ConsoleStream
  /-- the output -/
  | output
  /-- the output that the program started with -/
  | firstOutput
  /-- the output for errors -/
  | errors
  /-- the output for errors that the program started with -/
  | firstErrors
  deriving DecidableEq, Repr, Inhabited

/-- The streams in the order in which one is looked for. -/
def ConsoleStream.all : List ConsoleStream := [output, firstOutput, errors, firstErrors]

/-- Where a sink leads. -/
inductive SinkTarget
  /-- to a stream of the console -/
  | console (stream : ConsoleStream)
  /-- to the file of a session -/
  | session (path : Path)
  deriving DecidableEq, Repr, Inhabited

/-- The time at which a session begins. -/
structure Stamp where
  /-- as a part of the name of a file -/
  name : Text
  /-- the path that the library makes of the path of a file, in which the time may stand -/
  fill : Text → Except TemplateFlaw Text := Template.fill "time".toList fun _ => some name

/-- A path without braces stands for itself. -/
def Stamp.Documented (stamp : Stamp) : Prop :=
  ∀ path : Text, path.any Template.isBrace = false → stamp.fill path = .ok path

/-- A sink. -/
structure Sink where
  /-- its number -/
  number : Nat
  /-- where it leads -/
  target : SinkTarget
  /-- the least level that it takes -/
  least : Level
  deriving DecidableEq, Repr, Inhabited

/-- The sinks, and what has been written to them. -/
structure Journal where
  /-- the name of the least level that the console takes -/
  consoleLevel : Text := "INFO".toList
  /-- whether the console is wanted -/
  consoleEnabled : Bool := true
  /-- the streams of the console that are there -/
  streams : List ConsoleStream := ConsoleStream.all
  /-- whether the sinks have been set up -/
  configured : Bool := false
  /-- the sinks -/
  sinks : List Sink := []
  /-- the number of the sink of the session, as far as the journal knows -/
  session : Option Nat := none
  /-- the number of the next sink -/
  next : Nat := 0
  /-- what has been written where, in order -/
  written : List (SinkTarget × Entry) := []
  deriving DecidableEq, Repr, Inhabited

/-- The files and the journal. -/
structure Desk where
  /-- the files and folders -/
  disk : Disk
  /-- the journal -/
  journal : Journal

namespace Journal

/-- The stream that is used: the first one that is there. -/
def stream? (journal : Journal) : Option ConsoleStream :=
  ConsoleStream.all.find? fun stream => journal.streams.elem stream

/-- The journal with another sink, which gets the next number. -/
def add (journal : Journal) (target : SinkTarget) (least : Level) : Journal :=
  { journal with sinks := journal.sinks ++ [⟨journal.next, target, least⟩], next := journal.next + 1 }

/-- The journal without the sink with a number, if there is such a sink. -/
def remove? (journal : Journal) (number : Nat) : Option Journal :=
  if journal.sinks.any fun sink => sink.number = number then
    some { journal with sinks := journal.sinks.filter fun sink => sink.number ≠ number }
  else
    none

/-- The journal without sinks. -/
def clear (journal : Journal) : Journal := { journal with sinks := [], session := none }

/-- The journal after a message, which goes to every sink that takes its level. -/
def write (journal : Journal) (entry : Entry) : Journal :=
  let takers := journal.sinks.filter fun sink => sink.least.weight ≤ entry.level.weight
  { journal with written := journal.written ++ takers.map fun sink => (sink.target, entry) }

/-! ## Routines -/

/-- A change of the journal. -/
def change (f : Journal → Journal) : Routine Desk Unit :=
  Routine.modify fun desk => { desk with journal := f desk.journal }

/-- A message at a level. -/
def say (level : Level) (message : Text) : Routine Desk Unit := change fun journal =>
  journal.write ⟨level, message⟩

/-- A message at the level with a name. Where there is no sink, nobody asks for the level. -/
def sayAt (name message : Text) : Routine Desk Unit := do
  let journal := (← Routine.get).journal
  if journal.sinks = [] then
    pure ()
  else
    match Level.ofName? name with
    | some level => say level message
    | none => Routine.fail (.unknownLevel name)

/-- Adds the console, if it is wanted and there is a stream for it. -/
def addConsole : Routine Desk Unit := do
  let journal := (← Routine.get).journal
  match journal.consoleEnabled, journal.stream? with
  | true, some stream =>
    match Level.ofName? journal.consoleLevel with
    | some least => change fun journal => journal.add (.console stream) least
    | none => Routine.fail (.unknownLevel journal.consoleLevel)
  | _, _ => pure ()

/-- Sets the sinks up, once unless `force` asks for more. -/
def setUp (force : Bool) : Routine Desk Unit := do
  let journal := (← Routine.get).journal
  if journal.configured && !force then
    pure ()
  else do
    change clear
    addConsole
    change fun journal => { journal with configured := true }

/-- Removes the sink of the session before, if there is one. -/
def endSession : Routine Desk Unit := do
  let journal := (← Routine.get).journal
  match journal.session with
  | none => pure ()
  | some number =>
    match journal.remove? number with
    | some without => change fun _ => without
    | none => Routine.fail (.unknownSink number)

/-- The file of the session that began at the time `stamp`. -/
def sessionFile (folder : Path) (stamp : Text) : Path :=
  folder.child ("session-".toList ++ stamp ++ ".log".toList)

/-- The file of a sink, from the root, if paths start at the folder with the names `here`. -/
def sinkFile (stamp : Stamp) (here : List Text) (path : Path) : Except TemplateFlaw Path :=
  (stamp.fill path.toText).map fun t => (Path.ofText t).absolute here

/-- Opens the file of a sink, and makes the folders around it where they are missing. -/
def openSink (stamp : Stamp) (path : Path) : Routine Disk Unit := do
  let file ← Routine.ofExcept .template (sinkFile stamp (← Routine.get).hereNames path)
  Disk.ensureFolder file.parent
  Disk.ensureFile file

/-- A routine on the files. -/
def onDisk {α : Type} (m : Routine Disk α) : Routine Desk α :=
  m.within Desk.disk fun desk disk => { desk with disk }

/-- Begins a session with a file in a folder; the file is the result. -/
def beginSession (folder : Path) (stamp : Stamp) : Routine Desk Path := do
  onDisk (Disk.ensureFolder folder)
  endSession
  let path := sessionFile folder stamp.name
  onDisk (openSink stamp path)
  change fun journal => { journal.add (.session path) .debug with session := some journal.next }
  say .info ("详细日志: ".toList ++ path.toText)
  return path

/-! ## Small laws -/

/-- Templates are as it is documented. -/
theorem documented_template (name : Text) : Stamp.Documented { name } := fun _ h =>
  Template.fill_of_no_brace _ _ h

@[simp] theorem sinks_add (journal : Journal) (target : SinkTarget) (least : Level) :
    (journal.add target least).sinks = journal.sinks ++ [⟨journal.next, target, least⟩] := rfl

@[simp] theorem sinks_clear (journal : Journal) : journal.clear.sinks = [] := rfl

@[simp] theorem sinks_write (journal : Journal) (entry : Entry) :
    (journal.write entry).sinks = journal.sinks := rfl

end Journal

end ScreenScript
