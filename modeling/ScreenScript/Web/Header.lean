import ScreenScript.Text.Blank
import ScreenScript.Text.LowerCase

/-!
# Headers

The headers of an answer are names with values. A name may be in any letter case and have several
values, and a value may have parameters behind semicolons.

* `Header.value?` — the values of a name
* `Header.parameter?` — a parameter of a value
-/

namespace ScreenScript.Header

/-- The values of a name, with commas between them. -/
def value? (name : Text) (headers : List (Text × Text)) : Option Text :=
  match headers.filter fun (key, _) => key.lower = name with
  | [] => none
  | found => some (", ".toList.intercalate (found.map Prod.snd))

/-- The pieces of a value between its semicolons, except for those between double quotes. A quote
right behind a backslash is none; `before` is the character before the text. -/
def piecesFrom (isQuoted : Bool) (before : Option Char) : Text → List Text
  | [] => [[]]
  | c :: rest =>
    if c = ';' && !isQuoted then
      [] :: piecesFrom false none rest
    else
      match piecesFrom (isQuoted != (c = '"' && before ≠ some '\\')) (some c) rest with
      | [] => [[c]]
      | piece :: pieces => (c :: piece) :: pieces

/-- A text without the quotes or angle brackets around it. -/
def unquoted (t : Text) : Text :=
  if 1 < t.length &&
      (t.head? = some '"' && t.getLast? = some '"' || t.head? = some '<' && t.getLast? = some '>')
  then
    (t.drop 1).dropLast
  else
    t

/-- The name and the value of a parameter. -/
def parameter (piece : Text) : Text × Text :=
  let name := piece.takeWhile (· ≠ '=')
  ((Text.trim name).lower, unquoted (Text.trim (piece.drop (name.length + 1))))

/-- The parameter of a name. -/
def parameter? (name value : Text) : Option Text :=
  ((piecesFrom false none value).map parameter).lookup name

end ScreenScript.Header
