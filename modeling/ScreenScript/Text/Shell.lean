import ScreenScript.Text.Basic

/-!
# Words of the device's shell

Text to be typed travels as one argument of a command line that the shell on the device reads
again. A space is written `%s`, which the device's typing command turns back into a space; every
other character is quoted by the shell's rules. Each character is quoted on its own.
-/

namespace ScreenScript.Text

/-- The characters other than letters and digits that a shell word may hold unquoted. -/
def bareMarks : Text := "_@%+=:,./-".toList

/-- A character that a shell takes as it stands. -/
def isBare (c : Char) : Bool :=
  ('a' ≤ c && c ≤ 'z') || ('A' ≤ c && c ≤ 'Z') || ('0' ≤ c && c ≤ '9') || bareMarks.elem c

/-- One character as part of a shell word. A single quote closes the single quotes, stands between
double ones, and opens the single quotes again. -/
def quoteChar (c : Char) : Text :=
  if isBare c then [c]
  else if c = '\'' then "''\"'\"''".toList
  else ['\'', c, '\'']

/-- One character of a text to be typed. -/
def typedChar (c : Char) : Text := if c = ' ' then "%s".toList else quoteChar c

/-- A text to be typed, as the argument of the typing command. -/
def typedWord (t : Text) : Text := t.flatMap typedChar

end ScreenScript.Text
