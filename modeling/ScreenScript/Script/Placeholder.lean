import ScreenScript.Text.Integer

/-!
# Placeholders

`%randomNumber5%` in a line stands for five random digits. A line is cut into characters and
placeholders from left to right, and then the placeholders are filled with the next digits of a
stream. What has been filled in is not looked at again.

* `Placeholder.cut` — the pieces of a line
* `Placeholder.fill` — the text of the pieces, and how many digits of the stream are used up
-/

namespace ScreenScript

/-- Random digits, as many as are asked for. -/
abbrev DigitStream := Nat → Fin 10

namespace Placeholder

/-- What a placeholder begins with. -/
def mark : Text := "%randomNumber".toList

/-- The digits of the placeholder that a text starts with. -/
def leading? (t : Text) : Option Text :=
  if mark.isPrefixOf t then
    let behind := t.drop mark.length
    match behind.takeWhile Text.isDigit, behind.dropWhile Text.isDigit with
    | [], _ => none
    | digits, '%' :: _ => some digits
    | _, _ => none
  else
    none

/-- A piece of a line. -/
inductive Piece
  /-- a character that stands for itself -/
  | plain (c : Char)
  /-- a placeholder with its digits as they are written -/
  | hole (digits : Text)
  deriving DecidableEq, Repr

/-- The pieces of a text whose first characters, `skip` of them, belong to an earlier piece. -/
def cutFrom : Nat → Text → List Piece
  | _, [] => []
  | skip + 1, _ :: rest => cutFrom skip rest
  | 0, c :: rest =>
    match leading? (c :: rest) with
    | some digits => .hole digits :: cutFrom (mark.length + digits.length) rest
    | none => .plain c :: cutFrom 0 rest

/-- The pieces of a text. -/
def cut (t : Text) : List Piece := cutFrom 0 t

/-- The digits of the stream from one position on. -/
def draw (stream : DigitStream) (start count : Nat) : Text :=
  (List.range count).map fun i => Text.digitChar (stream (start + i))

/-- The text of some pieces, given how many digits have been drawn before, and how many have been
drawn then. There is no text if the number in a placeholder is too long; what has been drawn by then
stays drawn. -/
def fill (stream : DigitStream) : Nat → List Piece → Option Text × Nat
  | drawn, [] => (some [], drawn)
  | drawn, .plain c :: rest =>
    let (text, total) := fill stream drawn rest
    (text.map (c :: ·), total)
  | drawn, .hole digits :: rest =>
    match Text.readDigits? digits with
    | none => (none, drawn)
    | some count =>
      let (text, total) := fill stream (drawn + count) rest
      (text.map (draw stream drawn count ++ ·), total)

/-- The text with its placeholders filled. -/
def substitute (stream : DigitStream) (drawn : Nat) (t : Text) : Option Text × Nat :=
  fill stream drawn (cut t)

/-! ## Small laws -/

@[simp] theorem length_draw (stream : DigitStream) (start count : Nat) :
    (draw stream start count).length = count := by simp [draw]

end Placeholder

end ScreenScript
