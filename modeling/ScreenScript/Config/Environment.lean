import ScreenScript.Text.Blank
import ScreenScript.Text.Lines
import ScreenScript.Text.LowerCase
import ScreenScript.Text.Utf8

/-!
# Variables

Settings come from the variables of the environment and from a file with lines `KEY=value`. In the
file, blanks around the parts do not count, a value may stand in quotes of either kind, a `#` behind a
blank begins a comment, and a line that cannot be read is passed over. A name alone takes the value of
the variable away, and `${KEY}` in a value stands for the value of another variable.

* `Variables.ofText` — the variables of a text
* `Variables.ofOctets?` — the variables of a file
* `Variables.withoutMark` — variables whose names start with a mark, without it and in lower case
* `Variables.values` — the variables that have a value
-/

namespace ScreenScript

/-- Names with their values, if they have one. Of equal names the last one counts. -/
abbrev Variables := List (Text × Option Text)

namespace Variables

/-- A character that ends a line of the file. -/
def endsLine (c : Char) : Bool := c = '\n' || c = '\r'

/-- The text behind blanks that do not end the line. -/
def skipInline (t : Text) : Text := t.dropWhile fun c => Text.isBlank c && !endsLine c

/-- The rest of the line, and what is behind it. -/
def restOfLine (t : Text) : Text × Text :=
  (t.takeWhile (!endsLine ·), t.dropWhile (!endsLine ·))

/-- The text up to the closing quote, and what is behind the quote. What stands behind a backslash closes
nothing. -/
def quoted? (quote : Char) : Text → Option (Text × Text)
  | [] => none
  | '\\' :: c :: rest => (quoted? quote rest).map fun (body, behind) => ('\\' :: c :: body, behind)
  | c :: rest =>
    if c = quote then some ([], rest)
    else (quoted? quote rest).map fun (body, behind) => (c :: body, behind)

/-- The character that an escape in double quotes stands for. -/
def escaped? : Char → Option Char
  | '\\' => some '\\'
  | '\'' => some '\''
  | '"' => some '"'
  | 'a' => some '\x07'
  | 'b' => some '\x08'
  | 'f' => some '\x0c'
  | 'n' => some '\n'
  | 'r' => some '\r'
  | 't' => some '\t'
  | 'v' => some '\x0b'
  | _ => none

/-- The character that an escape in single quotes stands for. -/
def plainlyEscaped? : Char → Option Char
  | '\\' => some '\\'
  | '\'' => some '\''
  | _ => none

/-- The text with its escapes replaced. A backslash that begins none stands for itself. -/
def unescape (meaning : Char → Option Char) : Text → Text
  | '\\' :: c :: rest =>
    match meaning c with
    | some d => d :: unescape meaning rest
    | none => '\\' :: unescape meaning (c :: rest)
  | c :: rest => c :: unescape meaning rest
  | [] => []

/-- A value without quotes: it ends before a comment, and blanks at its end do not count. -/
def bareValue : Text → Text
  | [] => []
  | c :: rest =>
    if Text.isBlank c && (rest.dropWhile Text.isBlank).head? = some '#' then []
    else c :: bareValue rest

/-- The value that a text starts with, perhaps behind blanks, and what is behind it. -/
def value? (t : Text) : Option (Text × Text) :=
  match skipInline t with
  | '\'' :: rest => (quoted? '\'' rest).map fun (body, behind) => (unescape plainlyEscaped? body, behind)
  | '"' :: rest => (quoted? '"' rest).map fun (body, behind) => (unescape escaped? body, behind)
  | _ =>
    let (line, behind) := restOfLine t
    some ((bareValue line).trim, behind)

/-- The name that a text starts with, and what is behind it. -/
def name? : Text → Option (Text × Text)
  | '\'' :: rest =>
    match rest.takeWhile (· ≠ '\''), rest.dropWhile (· ≠ '\'') with
    | [], _ => none
    | name, _ :: behind => some (name, behind)
    | _, [] => none
  | t =>
    let stops (c : Char) : Bool := c = '=' || c = '#' || Text.isBlank c
    match t.takeWhile (!stops ·) with
    | [] => none
    | name => some (name, t.dropWhile (!stops ·))

/-- Whether nothing but a comment is left on the line. -/
def lineEnds (t : Text) : Bool :=
  match skipInline t with
  | [] => true
  | c :: _ => endsLine c || c = '#'

/-- The text without the word that may stand before a name. -/
def withoutExport (t : Text) : Text :=
  let word := "export".toList
  if word.isPrefixOf t then
    match t.drop word.length with
    | c :: rest => if Text.isBlank c && !endsLine c then skipInline rest else t
    | [] => t
  else
    t

/-- The variable that a text starts with, if its first line holds one, and what is behind it; what is
left of the line may be part of that. -/
def readOne (t : Text) : Option (Text × Option Text) × Text :=
  match name? (withoutExport t) with
  | none => (none, t)
  | some (name, rest) =>
    match skipInline rest with
    | '=' :: rest =>
      match value? rest with
      | none => (none, rest)
      | some (value, rest) => (if lineEnds rest then some (name, some value) else none, rest)
    | rest => (if lineEnds rest then some (name, none) else none, rest)

/-- The variables of a text as they are written; `fuel` bounds the number of lines. -/
def readAll : Nat → Text → Variables
  | 0, _ => []
  | fuel + 1, t =>
    match t.dropWhile Text.isBlank with
    | [] => []
    | t =>
      let (found, rest) := readOne t
      found.toList ++ readAll fuel (restOfLine rest).2

/-! ## References -/

/-- What a name stands for, if it is among the variables. -/
def lookup? (known : Variables) (name : Text) : Option (Option Text) :=
  (known.reverse.find? fun (other, _) => other = name).map Prod.snd

/-- The reference that a text starts with: its name, what it stands for where there is no such variable,
and how many characters it has. -/
def reference? : Text → Option (Text × Text × Nat)
  | '$' :: '{' :: t =>
    let name := t.takeWhile fun c => c ≠ '}' && c ≠ ':'
    match t.drop name.length with
    | '}' :: _ => some (name, [], name.length + 3)
    | ':' :: '-' :: t =>
      let default := t.takeWhile (· ≠ '}')
      if t.length = default.length then none else some (name, default, name.length + default.length + 5)
    | _ => none
  | _ => none

/-- A text, the first `skip` characters of which are left out, with its references replaced. What has
been put in is not looked at again. -/
def replaceFrom (known : Variables) : Nat → Text → Text
  | _, [] => []
  | skip + 1, _ :: rest => replaceFrom known skip rest
  | 0, c :: rest =>
    match reference? (c :: rest) with
    | some (name, default, length) =>
      ((lookup? known name).getD (some default)).getD [] ++ replaceFrom known (length - 1) rest
    | none => c :: replaceFrom known 0 rest

/-- The variables with another value for a name, in the place of an earlier one. -/
def assign (name : Text) (value : Option Text) : Variables → Variables
  | [] => [(name, value)]
  | (other, old) :: rest =>
    if other = name then (name, value) :: rest else (other, old) :: assign name value rest

/-- The variables with the references in their values replaced one after the other, given those that
come before them. A reference means the variable of the file, or else that of the environment. -/
def resolve (environment : Variables) : Variables → Variables → Variables
  | known, [] => known
  | known, (name, value) :: rest =>
    resolve environment (assign name (value.map (replaceFrom (environment ++ known) 0)) known) rest

/-- The variables of a text. -/
def ofText (environment : Variables) (t : Text) : Variables :=
  resolve environment [] (readAll t.length t)

/-- The variables of a file, if it holds a text. The mark that tells the order of octets may stand at
its start. -/
def ofOctets? (environment : Variables) (octets : Octets) : Option Variables :=
  (Utf8.decode? octets).map fun t =>
    ofText environment (Text.unifyNewlines (if t.head? = some '\uFEFF' then t.tail else t))

/-! ## Names -/

/-- The variables whose names start with a mark, in any letter case; the mark is removed, and what is
left of the names is in lower case. -/
def withoutMark (mark : Text) (known : Variables) : Variables :=
  known.filterMap fun (name, value) =>
    if mark.isPrefixOf name.lower then some (name.lower.drop mark.length, value) else none

/-- The variables that have a value, with it. -/
def values : Variables → List (Text × Text)
  | [] => []
  | (name, value) :: rest =>
    if rest.any fun (other, _) => other = name then values rest
    else (value.map fun t => (name, t)).toList ++ values rest

end Variables

end ScreenScript
