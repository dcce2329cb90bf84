import ScreenScript.Text.Digit

/-!
# Written integers

An integer is read from an optional sign and decimal digits of any scripts, between which single
underscores may stand, and written with the digits of ASCII. More than `maxDigits` digits are refused
both ways, leading zeros included.
-/

namespace ScreenScript.Text

/-- The most digits that a written integer may have. -/
def maxDigits : Nat := 4300

/-- The values of a text that consists of digits alone. -/
def digitValues? : Text → Option (List Nat)
  | [] => some []
  | c :: rest => do
    let value ← digitValue? c
    let values ← digitValues? rest
    return value :: values

/-- The values of digits that single underscores may separate: between two digits stands at most
one underscore, and none stands at an end. -/
def groupedDigits? : Text → Option (List Nat)
  | [] => none
  | c :: rest => do
    let value ← digitValue? c
    match rest with
    | [] => return [value]
    | '_' :: rest => return value :: (← groupedDigits? rest)
    | next :: rest => return value :: (← groupedDigits? (next :: rest))

/-- The number that decimal digits stand for, the most significant first. -/
def ofDigitValues (values : List Nat) : Nat := values.foldl (10 * · + ·) 0

/-- The natural number written with digits, if there are not too many. -/
def readDigits? (t : Text) : Option Nat := do
  let values ← digitValues? t
  if values.length ≤ maxDigits then
    return ofDigitValues values
  else
    none

/-- The natural number written with digits and single underscores, if there are not too many
digits. -/
def readGrouped? (t : Text) : Option Nat := do
  let values ← groupedDigits? t
  if values.length ≤ maxDigits then
    return ofDigitValues values
  else
    none

/-- The integer that a text without blanks at its ends stands for. -/
def readInt? : Text → Option Int
  | '-' :: rest => (readGrouped? rest).map fun n => -(n : Int)
  | '+' :: rest => (readGrouped? rest).map (↑·)
  | t => (readGrouped? t).map (↑·)

/-- The text of an integer, if it does not have too many digits. -/
def writeInt? (n : Int) : Option Text :=
  if (ofNat n.natAbs).length ≤ maxDigits then some (ofInt n) else none

end ScreenScript.Text
