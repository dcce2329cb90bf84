import ScreenScript.Json.Basic

/-!
# Reading JSON

A reader takes a value off the front of a text and hands back the rest. Containers that hold
something may be nested `maxDepth` deep. Beyond the standard, `NaN`, `Infinity` and `-Infinity` are
numbers; refused are numbers of more than `Text.maxDigits` digits before the point and escapes of half a
surrogate pair.
-/

namespace ScreenScript.Json

/-- What is read off the front of a text, and the rest; nothing if the text does not start that
way. -/
abbrev Reader (α : Type) := Text → Option (α × Text)

/-- How deep containers that hold something may be nested. -/
def maxDepth : Nat := 200

/-- The text behind leading white space. -/
def skipSpace (t : Text) : Text :=
  t.dropWhile fun c => c = ' ' || c = '\t' || c = '\n' || c = '\r'

/-- The text behind a word, if it starts with that word. -/
def behind? (word t : Text) : Option Text :=
  if word.isPrefixOf t then some (t.drop word.length) else none

/-! ## Strings -/

/-- A piece of a written string. -/
inductive Piece
  /-- a character that stands for itself, or a short escape of it -/
  | plain (c : Char)
  /-- an escape by number: one unit of UTF-16 -/
  | unit (code : Nat)
  deriving DecidableEq, Repr

/-- The value of a hexadecimal digit. -/
def hexValue? (c : Char) : Option Nat :=
  if '0' ≤ c && c ≤ '9' then some (c.toNat - 48)
  else if 'a' ≤ c && c ≤ 'f' then some (c.toNat - 87)
  else if 'A' ≤ c && c ≤ 'F' then some (c.toNat - 55)
  else none

/-- The unit of UTF-16 that four hexadecimal digits name. -/
def unit? (a b c d : Char) : Option Nat := do
  return (((← hexValue? a) * 16 + (← hexValue? b)) * 16 + (← hexValue? c)) * 16 + (← hexValue? d)

/-- The character of a short escape. -/
def shortEscape? : Char → Option Char
  | '"' => some '"'
  | '\\' => some '\\'
  | '/' => some '/'
  | 'b' => some '\x08'
  | 'f' => some '\x0c'
  | 'n' => some '\n'
  | 'r' => some '\r'
  | 't' => some '\t'
  | _ => none

/-- The pieces up to the closing quote. -/
def pieces : Reader (List Piece)
  | [] => none
  | '"' :: rest => some ([], rest)
  | '\\' :: 'u' :: a :: b :: c :: d :: rest => do
    let code ← unit? a b c d
    let (later, rest) ← pieces rest
    return (.unit code :: later, rest)
  | '\\' :: e :: rest => do
    let c ← shortEscape? e
    let (later, rest) ← pieces rest
    return (.plain c :: later, rest)
  | c :: rest => do
    if c.toNat < 0x20 || c = '\\' then
      none
    else
      let (later, rest) ← pieces rest
      return (.plain c :: later, rest)

/-- The text of some pieces. Units that are halves of a surrogate pair have to come in pairs. -/
def joinPieces : List Piece → Option Text
  | [] => some []
  | .plain c :: rest => (joinPieces rest).map (c :: ·)
  | .unit high :: .unit low :: rest =>
    if 0xD800 ≤ high && high < 0xDC00 then
      if 0xDC00 ≤ low && low < 0xE000 then
        (joinPieces rest).map
          (Char.ofNat (0x10000 + (high - 0xD800) * 0x400 + (low - 0xDC00)) :: ·)
      else
        none
    else if 0xDC00 ≤ high && high < 0xE000 then
      none
    else
      (joinPieces (.unit low :: rest)).map (Char.ofNat high :: ·)
  | .unit code :: rest =>
    if 0xD800 ≤ code && code < 0xE000 then none
    else (joinPieces rest).map (Char.ofNat code :: ·)

/-- A string, behind its opening quote. -/
def string : Reader Text := fun t => do
  let (written, rest) ← pieces t
  return (← joinPieces written, rest)

/-! ## Numbers -/

/-- A run of at least one digit. -/
def digits : Reader Text := fun t =>
  match t.takeWhile Text.isAsciiDigit with
  | [] => none
  | run => some (run, t.dropWhile Text.isAsciiDigit)

/-- The digits behind a decimal point; none if there is no point. -/
def fractionPart : Reader (Option Text)
  | '.' :: rest => (digits rest).map fun (run, rest) => (some run, rest)
  | t => some (none, t)

/-- A signed run of digits. -/
def signedDigits : Reader Int
  | '-' :: rest => (digits rest).map fun (run, rest) => (-(Text.ofAsciiDigits run : Int), rest)
  | '+' :: rest => (digits rest).map fun (run, rest) => ((Text.ofAsciiDigits run : Int), rest)
  | t => (digits t).map fun (run, rest) => ((Text.ofAsciiDigits run : Int), rest)

/-- The exponent, if one is written. -/
def exponentPart : Reader (Option Int)
  | 'e' :: rest | 'E' :: rest => (signedDigits rest).map fun (n, rest) => (some n, rest)
  | t => some (none, t)

/-- A number behind its sign, which is no digit and does not count. -/
def unsigned (negative : Bool) : Reader Json := fun t => do
  let (whole, rest) ← digits t
  if (whole.head? = some '0' && whole.length ≠ 1) || Text.maxDigits < whole.length then
    none
  else
    let (places, rest) ← fractionPart rest
    let (exponent, rest) ← exponentPart rest
    if places.isNone && exponent.isNone then
      let n : Int := Text.ofAsciiDigits whole
      return (.int (if negative then -n else n), rest)
    else
      let behindPoint := places.getD []
      return (.real (.ofDecimal negative (Text.ofAsciiDigits (whole ++ behindPoint))
        (exponent.getD 0 - behindPoint.length)), rest)

/-- A number. -/
def number : Reader Json
  | '-' :: rest =>
    match behind? "Infinity".toList rest with
    | some rest => some (.real (.inf true), rest)
    | none => unsigned true rest
  | t => unsigned false t

/-! ## Values -/

/-- The items of an array behind its first bracket or a comma: a value, and then more of them or
the closing bracket. `fuel` bounds their number. -/
def items (value : Reader Json) : Nat → Reader (List Json)
  | 0, _ => none
  | fuel + 1, t => do
    let (item, rest) ← value (skipSpace t)
    match skipSpace rest with
    | ']' :: rest => return ([item], rest)
    | ',' :: rest =>
      let (later, rest) ← items value fuel rest
      return (item :: later, rest)
    | _ => none

/-- The members of an object behind its first brace or a comma. -/
def members (value : Reader Json) : Nat → Reader (List (Text × Json))
  | 0, _ => none
  | fuel + 1, t => do
    match skipSpace t with
    | '"' :: rest =>
      let (key, rest) ← string rest
      match skipSpace rest with
      | ':' :: rest =>
        let (item, rest) ← value (skipSpace rest)
        match skipSpace rest with
        | '}' :: rest => return ([(key, item)], rest)
        | ',' :: rest =>
          let (later, rest) ← members value fuel rest
          return ((key, item) :: later, rest)
        | _ => none
      | _ => none
    | _ => none

/-- A value whose items or members, if it has any, are read by `inner`. -/
def valueWith (inner : Option (Reader Json)) : Reader Json
  | '"' :: rest => (string rest).map fun (t, rest) => (.str t, rest)
  | '[' :: rest =>
    match skipSpace rest with
    | ']' :: rest => some (.arr [], rest)
    | rest => do
      let (list, rest) ← items (← inner) rest.length rest
      return (.arr list, rest)
  | '{' :: rest =>
    match skipSpace rest with
    | '}' :: rest => some (.obj [], rest)
    | rest => do
      let (list, rest) ← members (← inner) rest.length rest
      return (.obj list, rest)
  | 't' :: rest => (behind? "rue".toList rest).map fun rest => (.bool true, rest)
  | 'f' :: rest => (behind? "alse".toList rest).map fun rest => (.bool false, rest)
  | 'n' :: rest => (behind? "ull".toList rest).map fun rest => (.null, rest)
  | 'N' :: rest => (behind? "aN".toList rest).map fun rest => (.real .nan, rest)
  | 'I' :: rest => (behind? "nfinity".toList rest).map fun rest => (.real (.inf false), rest)
  | t => number t

/-- A value with containers nested at most so deep. -/
def value : Nat → Reader Json
  | 0 => valueWith none
  | depth + 1 => valueWith (some (value depth))

/-- The value that a whole text stands for. -/
def read? (t : Text) : Option Json := do
  let (result, rest) ← value maxDepth (skipSpace t)
  if (skipSpace rest).isEmpty then return result else none

end ScreenScript.Json
