import ScreenScript.Json.Basic

/-!
# Writing JSON

The written form of a value. On one line, a comma and a colon are followed by a space, characters
beyond ASCII stand for themselves, and numbers are as short as reading them back allows.
-/

namespace ScreenScript.Json

/-- A character of a string. Quotes, backslashes and control characters are escaped. -/
def writeChar (c : Char) : Text :=
  if c = '"' || c = '\\' then ['\\', c]
  else if c = '\n' then ['\\', 'n']
  else if c = '\r' then ['\\', 'r']
  else if c = '\t' then ['\\', 't']
  else if c = '\x08' then ['\\', 'b']
  else if c = '\x0c' then ['\\', 'f']
  else if c.toNat < 0x20 then
    let digits := Nat.toDigits 16 c.toNat
    "\\u".toList ++ List.replicate (4 - digits.length) '0' ++ digits
  else [c]

/-- A string with its quotes. -/
def writeString (t : Text) : Text := '"' :: t.flatMap writeChar ++ ['"']

/-- A floating-point number. -/
def writeReal : Binary64 → Text
  | .nan => "NaN".toList
  | .inf negative => if negative then "-Infinity".toList else "Infinity".toList
  | x => x.shortest

mutual

/-- A value. -/
def write : Json → Text
  | .null => "null".toList
  | .bool b => if b then "true".toList else "false".toList
  | .int n => Text.ofInt n
  | .real x => writeReal x
  | .str t => writeString t
  | .arr items => '[' :: writeItems items ++ [']']
  | .obj members => '\x7b' :: writeMembers members ++ ['\x7d']

/-- The items of an array. -/
def writeItems : List Json → Text
  | [] => []
  | [item] => write item
  | item :: next :: rest => write item ++ ", ".toList ++ writeItems (next :: rest)

/-- The members of an object. -/
def writeMembers : List (Text × Json) → Text
  | [] => []
  | [(key, value)] => writeString key ++ ": ".toList ++ write value
  | (key, value) :: next :: rest =>
    writeString key ++ ": ".toList ++ write value ++ ", ".toList ++ writeMembers (next :: rest)

end

/-- Members, one on each line. -/
def writeLines : List (Text × Json) → Text
  | [] => []
  | [(key, value)] => "\n  ".toList ++ writeString key ++ ": ".toList ++ write value
  | (key, value) :: next :: rest =>
    "\n  ".toList ++ writeString key ++ ": ".toList ++ write value ++ ',' :: writeLines (next :: rest)

/-- The object with these members, of which none is a container, on several lines: each member on a line
of its own, indented by two spaces. -/
def writeBlock (members : List (Text × Json)) : Text :=
  '\x7b' :: writeLines members ++ "\n\x7d".toList

end ScreenScript.Json
