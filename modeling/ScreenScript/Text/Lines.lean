import ScreenScript.Text.Basic

/-!
# Lines

Two steps lead from the content of a text file to its lines. `unifyNewlines` writes the three
conventions for the end of a line (`\n`, `\r\n`, `\r`) as `\n`. `lines` cuts at every Unicode line
boundary; a boundary at the end of the text opens no further line.
-/

namespace ScreenScript.Text

/-- The characters that end a line. -/
def lineBreaks : List Nat := [0x0a, 0x0b, 0x0c, 0x0d, 0x1c, 0x1d, 0x1e, 0x85, 0x2028, 0x2029]

/-- A character that ends a line. -/
def isLineBreak (c : Char) : Bool := lineBreaks.contains c.toNat

/-- The text with `\n` for each `\r\n` and for each `\r` that stands alone. -/
def unifyNewlines : Text → Text
  | [] => []
  | '\r' :: '\n' :: rest => '\n' :: unifyNewlines rest
  | c :: rest => (if c = '\r' then '\n' else c) :: unifyNewlines rest

/-- The lines of a text, without the characters that end them. `\r\n` ends one line. -/
def lines : Text → List Text
  | [] => []
  | '\r' :: '\n' :: rest => [] :: lines rest
  | c :: rest =>
    if isLineBreak c then
      [] :: lines rest
    else
      match lines rest with
      | [] => [[c]]
      | line :: others => (c :: line) :: others

end ScreenScript.Text
