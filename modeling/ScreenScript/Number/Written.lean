import ScreenScript.Number.Decimal
import ScreenScript.Text.Blank
import ScreenScript.Text.Digit
import ScreenScript.Text.LowerCase

/-!
# Reading floating-point numbers

A number is written as an optional sign and either a word for infinity or for not-a-number, or digits
with an optional point and an optional exponent. Spaces around it do not count. Where there are none,
single underscores do not count either.
-/

namespace ScreenScript.Binary64

/-- The exponent that a text consists of; an empty text is the exponent zero. -/
def readExponent? : Text → Option Int
  | [] => some 0
  | e :: rest =>
    if e = 'e' || e = 'E' then
      let (negative, rest) := match rest with
        | '-' :: rest => (true, rest)
        | '+' :: rest => (false, rest)
        | rest => (false, rest)
      if rest.isEmpty || !rest.all Text.isAsciiDigit then none
      else some (if negative then -(Text.ofAsciiDigits rest : Int) else Text.ofAsciiDigits rest)
    else
      none

/-- The number without a sign that a text consists of. -/
def readMagnitude? (negative : Bool) (t : Text) : Option Binary64 := do
  let word := Text.lower t
  if word = "inf".toList || word = "infinity".toList then
    return .inf negative
  else if word = "nan".toList then
    return .nan
  else
    let whole := t.takeWhile Text.isAsciiDigit
    let (places, rest) := match t.dropWhile Text.isAsciiDigit with
      | '.' :: rest => (rest.takeWhile Text.isAsciiDigit, rest.dropWhile Text.isAsciiDigit)
      | rest => ([], rest)
    if whole.isEmpty && places.isEmpty then
      none
    else
      let exponent ← readExponent? rest
      return .ofDecimal negative (Text.ofAsciiDigits (whole ++ places)) (exponent - places.length)

/-- The number that a text consists of. -/
def readPlain? : Text → Option Binary64
  | '-' :: rest => readMagnitude? true rest
  | '+' :: rest => readMagnitude? false rest
  | t => readMagnitude? false t

/-- The number that a text stands for. -/
def read? (t : Text) : Option Binary64 :=
  match readPlain? t.trimSpaces with
  | some x => some x
  | none => (Text.withoutUnderscores? t).bind readPlain?

end ScreenScript.Binary64
