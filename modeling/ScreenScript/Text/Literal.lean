import ScreenScript.Text.Basic
import ScreenScript.Text.Printable

/-!
# Quoted literals

How a text is shown inside a message: between quotes, with everything that does not print
escaped. The quotes are single ones unless the text holds a single quote and no double quote.
-/

namespace ScreenScript.Text

/-- The code of a character in at least `width` hexadecimal digits. -/
def hexCode (width : Nat) (c : Char) : Text :=
  let digits := Nat.toDigits 16 c.toNat
  List.replicate (width - digits.length) '0' ++ digits

/-- A character inside a literal that `quote` delimits. -/
def literalChar (quote c : Char) : Text :=
  if c = quote || c = '\\' then ['\\', c]
  else if c = '\n' then ['\\', 'n']
  else if c = '\r' then ['\\', 'r']
  else if c = '\t' then ['\\', 't']
  else if isPrintable c then [c]
  else if c.toNat < 0x100 then '\\' :: 'x' :: hexCode 2 c
  else if c.toNat < 0x10000 then '\\' :: 'u' :: hexCode 4 c
  else '\\' :: 'U' :: hexCode 8 c

/-- The quote that delimits the literal of a text. -/
def literalQuote (t : Text) : Char :=
  if t.elem '\'' && !t.elem '"' then '"' else '\''

/-- The literal of a text. -/
def literal (t : Text) : Text :=
  let quote := literalQuote t
  quote :: t.flatMap (literalChar quote) ++ [quote]

end ScreenScript.Text
