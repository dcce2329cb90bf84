import ScreenScript.Text.Blank
import ScreenScript.Text.Integer

/-!
# Integers written as strings

An integer that is given as a string is read in two steps. The strict form is a hyphen, if the integer
is negative, and digits of ASCII, the first of which is zero only if it is the only one. A text in another
form is cleaned and then has to be in the strict form.

Cleaning removes the spaces around the text and one plus sign, zeros at the front and underscores among
them, a point with zeros behind it, and single underscores. A hyphen may also stand behind the zeros.

* `Numeral.strict` — the strict form
* `Numeral.cleaned?` — a text without what does not count
* `Numeral.read` — the integer that a text stands for
-/

namespace ScreenScript.Numeral

/-- Why a text stands for no integer. -/
inductive Flaw
  /-- no integer is written that way -/
  | unreadable
  /-- the integer has too many digits -/
  | oversize
  deriving DecidableEq, Repr

/-- Whether a text starts with a hyphen, and what is behind it. -/
def cutHyphen : Text → Bool × Text
  | '-' :: rest => (true, rest)
  | t => (false, t)

/-- The integer that a text in the strict form is. Too many digits are worse than what follows them. -/
def strict (t : Text) : Except Flaw Int :=
  let (negative, rest) := cutHyphen t
  let run := rest.takeWhile Text.isAsciiDigit
  if run = [] || (run.head? = some '0' && run ≠ ['0']) then
    .error .unreadable
  else if Text.maxDigits < run.length then
    .error .oversize
  else if run.length < rest.length then
    .error .unreadable
  else
    .ok (if negative then -(Text.ofAsciiDigits run : Int) else Text.ofAsciiDigits run)

/-- A character that an integer without zeros at its front may start with. -/
def startsInteger (c : Char) : Bool := c = '-' || Text.isAsciiDigit c

/-- The text without the zeros and underscores at its front, given the one before them. The last of
them stays if nothing or a point follows. -/
def skipZeros (last : Char) : Text → Option Text
  | [] => some [last]
  | c :: rest =>
    if c = '0' || c = '_' then skipZeros c rest
    else if c = '.' then some (last :: c :: rest)
    else if startsInteger c then some (c :: rest)
    else none

/-- The text without the zeros at its front, if an integer can start that way. -/
def withoutZeros? : Text → Option Text
  | [] => none
  | '0' :: rest => skipZeros '0' rest
  | c :: rest => if startsInteger c then some (c :: rest) else none

/-- The text without a point and zeros at its end. -/
def dropZeroPlaces (t : Text) : Text :=
  match t.cutLast? '.' with
  | some (whole, places) => if places ≠ [] && places.all (· = '0') then whole else t
  | none => t

/-- Whether a hyphen stands in front of a text, and what is behind that or a plus sign. -/
def cutSign? : Text → Option (Bool × Text)
  | '+' :: '-' :: _ => none
  | '+' :: rest => some (false, rest)
  | t => some (cutHyphen t)

/-- The text without what does not count, if it may stand for an integer at all. -/
def cleaned? (t : Text) : Option Text := do
  let (negative, rest) ← cutSign? t.trimSpaces
  let rest := dropZeroPlaces (← withoutZeros? rest)
  let rest := (Text.withoutUnderscores? rest).getD rest
  return if negative then '-' :: rest else rest

/-- The integer that a text stands for. Only a text that needs no cleaning can be oversize. -/
def read (t : Text) : Except Flaw Int :=
  match strict t with
  | .error .unreadable =>
    match (cleaned? t).map strict with
    | some (.ok n) => .ok n
    | _ => .error .unreadable
  | result => result

end ScreenScript.Numeral
