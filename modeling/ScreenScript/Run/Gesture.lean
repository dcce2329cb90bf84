import ScreenScript.Script.Keyword
import ScreenScript.Text.Integer

/-!
# Gestures

The service answers with actions in a small language: `tap x,y`, `swipe x,y,x,y`, `input x,y 'text'`,
`home`, `back` and `recent`. Keywords may be in any letter case. Anything else asks for nothing.

* `Gesture.ofAction` — what an action asks for
* `Gesture.inputParts?` — the parts of an input
-/

namespace ScreenScript

/-- What an action asks for. -/
inductive Gesture
  /-- press the home key -/
  | home
  /-- press the back key -/
  | back
  /-- show the recent apps -/
  | recent
  /-- tap a point of the picture -/
  | tap (x y : Int)
  /-- swipe from one point of the picture to another -/
  | swipe (x₁ y₁ x₂ y₂ : Int)
  /-- an input, of which the parts are still to be found -/
  | input
  /-- nothing, although the keyword of a gesture is there -/
  | malformed
  /-- nothing -/
  | unknown
  deriving DecidableEq, Repr, Inhabited

namespace Gesture

/-- The integers among the fields of a text that commas separate. -/
def integers (t : Text) : List Int :=
  (t.fields ',').filterMap fun field => Text.readInt? field.trim

/-- The integers of a text, if there are as many as expected. Fields that are no integers do not
count. -/
def coordinates? (t : Text) (expected : Nat) : Option (List Int) :=
  if (integers t).length = expected then some (integers t) else none

/-- The tap whose point a text gives. -/
def ofTapArgument (t : Text) : Gesture :=
  match coordinates? t 2 with
  | some [x, y] => tap x y
  | _ => malformed

/-- The swipe whose points a text gives. -/
def ofSwipeArgument (t : Text) : Gesture :=
  match coordinates? t 4 with
  | some [x₁, y₁, x₂, y₂] => swipe x₁ y₁ x₂ y₂
  | _ => malformed

/-- What an action without blanks at its ends asks for. -/
def ofAction (action : Text) : Gesture :=
  if action.lower = "home".toList then home
  else if action.lower = "back".toList then back
  else if action.lower = "recent".toList then recent
  else
    match Keyword.argumentBehind? "tap ".toList action with
    | some argument => ofTapArgument argument
    | none =>
      match Keyword.argumentBehind? "swipe ".toList action with
      | some argument => ofSwipeArgument argument
      | none => if (Keyword.argumentBehind? "input ".toList action).isSome then input else unknown

/-! ## The parts of an input -/

/-- The letters that stand for each other when letter case does not count. -/
def sameLetter (letter c : Char) : Bool :=
  c = letter || c = letter.toUpper || (letter = 'i' && (c = 'ı' || c = 'İ'))

/-- What is behind a word, whose letter case does not count. -/
def behindWord? : Text → Text → Option Text
  | [], t => some t
  | _ :: _, [] => none
  | letter :: word, c :: rest => if sameLetter letter c then behindWord? word rest else none

/-- The digits that a text starts with, and what is behind them and the given character. -/
def digitsUpTo? (stop : Char) (t : Text) : Option (Text × Text) :=
  match t.takeWhile Text.isDigit, t.dropWhile Text.isDigit with
  | [], _ => none
  | run, c :: rest => if c = stop then some (run, rest) else none
  | _, [] => none

/-- A quote of either kind. -/
def isQuote (c : Char) : Bool := c = '\'' || c = '"'

/-- The text between the quote that a text starts with and the next quote; it is on one line. -/
def quoted? : Text → Option Text
  | [] => none
  | c :: rest =>
    if isQuote c then
      match rest.dropWhile fun c => !isQuote c && c ≠ '\n' with
      | stop :: _ => if isQuote stop then some (rest.takeWhile fun c => !isQuote c && c ≠ '\n') else none
      | [] => none
    else
      none

/-- The parts of an input: the digits of its point, and the text. -/
structure Input where
  /-- the digits of the first coordinate -/
  x : Text
  /-- the digits of the second coordinate -/
  y : Text
  /-- the text -/
  text : Text
  deriving DecidableEq, Repr, Inhabited

/-- The parts of the input that a text starts with. -/
def leadingInput? (t : Text) : Option Input := do
  let rest ← behindWord? "input ".toList t
  let (x, rest) ← digitsUpTo? ',' rest
  let (y, rest) ← digitsUpTo? ' ' (rest.dropWhile Text.isBlank)
  let text ← quoted? rest
  return ⟨x, y, text⟩

/-- The parts of the first input in a text. -/
def inputParts? : Text → Option Input
  | [] => none
  | c :: rest =>
    match leadingInput? (c :: rest) with
    | some parts => some parts
    | none => inputParts? rest

end Gesture

end ScreenScript
