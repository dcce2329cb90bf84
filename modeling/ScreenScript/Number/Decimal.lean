import ScreenScript.Number.Binary64
import ScreenScript.Text.Basic

/-!
# Decimal text of floating-point numbers

Two ways to write a number and one to read it. `shortest` writes the fewest digits that read back as
the same number, and of several such texts the nearest one; numbers from `1e-4` up to but not
including `1e16` are written without an exponent, and integral ones with `.0`. `fixed` writes a given
number of places, rounded from the exact value. `ofDecimal` reads digits and a power of ten.
-/

namespace ScreenScript.Binary64

/-- A power of ten. -/
def tenPow (n : Nat) : Nat := Nat.pow 10 n

/-- The number nearest to `digits · 10 ^ power`, with a sign. Powers beyond the range of all numbers
are recognised by the count of digits and not computed. -/
def ofDecimal (negative : Bool) (digits : Nat) (power : Int) : Binary64 :=
  let length : Int := (Nat.toDigits 10 digits).length
  if digits = 0 || length + power < -400 then zero negative
  else if 400 < length + power then .inf negative
  else if 0 ≤ power then round negative (digits * tenPow power.toNat) 1
  else round negative digits (tenPow (-power).toNat)

/-! ## The shortest digits -/

/-- `n · 10 ^ e` as a fraction of natural numbers. -/
def decimalFraction (n : Nat) (e : Int) : Nat × Nat :=
  if 0 ≤ e then (n * tenPow e.toNat, 1) else (n, tenPow (-e).toNat)

/-- The greatest `k` with `10 ^ k ≤ num / den`, for a positive fraction. -/
def floorLog10 (num den : Nat) : Int :=
  let guess : Int := ((num.log2 : Int) - (den.log2 : Int)) * 30103 / 100000
  let reaches (k : Int) : Bool :=
    let (n, d) := decimalFraction num (-k)
    den * d ≤ n
  if reaches (guess + 1) then guess + 1
  else if reaches guess then guess
  else guess - 1

/-- Of the multiples of `10 ^ power`, the one nearest to `num / den` that reads back as `x`: of the
two neighbours of the fraction, those that read back, and of two such the nearer, and from the middle
the even one. -/
def onGrid? (x : Binary64) (num den : Nat) (power : Int) : Option Nat :=
  let (n, d) := decimalFraction num (-power)
  let below := n / (den * d)
  let above := below + 1
  let hits (candidate : Nat) : Bool := ofDecimal false candidate power = x
  match hits below, hits above with
  | true, true =>
    let twice := 2 * (n % (den * d))
    some (if twice < den * d || (twice = den * d && below % 2 = 0) then below else above)
  | true, false => some below
  | false, true => some above
  | false, false => none

/-- The first grid on which a number is hit, with 1, 2, … digits: the digits and the power of ten of
the last one. -/
def firstGrid (x : Binary64) (num den : Nat) (lead : Int) : Nat → Nat → Nat × Int
  | 0, _ => (0, 0)
  | fuel + 1, count =>
    let power := lead - count
    match onGrid? x num den power with
    | some digits => (digits, power)
    | none => firstGrid x num den lead fuel (count + 1)

/-- The digits of a positive finite number, and the power of ten of the first one. Seventeen digits
always suffice. -/
def shortestDigits (mantissa : Nat) (exponent : Int) : Text × Int :=
  let (num, den) := fraction mantissa exponent
  let (digits, power) := firstGrid (.finite false mantissa exponent) num den (floorLog10 num den) 17 0
  let text := Text.ofNat digits
  let stripped := (text.reverse.dropWhile (· = '0')).reverse
  (stripped, power + (text.length : Int) - 1)

/-! ## Writing -/

/-- Digits with a decimal point behind the digit of the power zero, where `lead` is the power of the
first digit. An integral value ends in `.0`. -/
def positional (digits : Text) (lead : Int) : Text :=
  if lead < 0 then
    '0' :: '.' :: List.replicate (-lead - 1).toNat '0' ++ digits
  else
    let whole := lead.toNat + 1
    if digits.length ≤ whole then
      digits ++ List.replicate (whole - digits.length) '0' ++ ['.', '0']
    else
      digits.take whole ++ '.' :: digits.drop whole

/-- Digits with a power of ten: one digit before the point, no point behind a single digit, and an
exponent with a sign and at least two digits. -/
def scientific (digits : Text) (lead : Int) : Text :=
  let exponent := Text.ofNat lead.natAbs
  let padded := if exponent.length < 2 then '0' :: exponent else exponent
  let sign := if lead < 0 then '-' else '+'
  match digits with
  | first :: next :: rest => first :: '.' :: next :: rest ++ 'e' :: sign :: padded
  | digits => digits ++ 'e' :: sign :: padded

/-- The shortest text that reads back as the number. -/
def shortest : Binary64 → Text
  | .nan => "nan".toList
  | .inf negative => if negative then "-inf".toList else "inf".toList
  | .finite negative m e =>
    let sign := if negative then ['-'] else []
    if m = 0 then
      sign ++ "0.0".toList
    else
      let (digits, lead) := shortestDigits m e
      sign ++ if -4 ≤ lead && lead < 16 then positional digits lead else scientific digits lead

/-- The text with a fixed number of places, rounded to the nearest and from the middle to the even
one. -/
def fixed (places : Nat) : Binary64 → Text
  | .nan => "nan".toList
  | .inf negative => if negative then "-inf".toList else "inf".toList
  | .finite negative m e =>
    let (num, den) := fraction m e
    let digits := Text.ofNat (nearestNat (num * tenPow places) den)
    let padded := List.replicate (places + 1 - digits.length) '0' ++ digits
    let whole := padded.length - places
    let point := if places = 0 then [] else '.' :: padded.drop whole
    (if negative then ['-'] else []) ++ padded.take whole ++ point

end ScreenScript.Binary64
