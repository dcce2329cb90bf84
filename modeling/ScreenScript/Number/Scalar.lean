import ScreenScript.Number.Decimal
import ScreenScript.Text.Integer

/-!
# Scalars

A scalar is an integer of any size or a floating-point number. Coordinates are integers, and the
factor by which a picture was scaled is a quotient, so the two meet in division. An integer that meets
a floating-point number is converted first, which fails if it is too large.
-/

namespace ScreenScript

/-- Why a computation has no result. -/
inductive ArithmeticError
  /-- the result, or a converted integer, is too large -/
  | overflow
  /-- the divisor is zero -/
  | divisionByZero
  /-- an integer was asked of something that is not a number -/
  | notANumber
  /-- an integer has too many digits to be read or written -/
  | tooManyDigits
  deriving DecidableEq, Repr

/-- An integer or a floating-point number. -/
inductive Scalar
  /-- an integer -/
  | int (n : Int)
  /-- a floating-point number -/
  | real (x : Binary64)
  deriving DecidableEq, Repr, Inhabited

namespace Scalar

/-- The floating-point number of a scalar. -/
def toReal : Scalar → Except ArithmeticError Binary64
  | .int n => match Binary64.ofInt? n with
    | some x => .ok x
    | none => .error .overflow
  | .real x => .ok x

/-- The quotient of two integers, rounded once. -/
def divInt (a b : Int) : Except ArithmeticError Binary64 :=
  if b = 0 then
    .error .divisionByZero
  else
    match Binary64.round ((a < 0) != (b < 0)) a.natAbs b.natAbs with
    | .inf _ => .error .overflow
    | x => .ok x

/-- The quotient of two floating-point numbers. -/
def divReal (x y : Binary64) : Except ArithmeticError Binary64 :=
  if y.isZero then .error .divisionByZero else .ok (x.div y)

/-- The quotient of two scalars. -/
def div : Scalar → Scalar → Except ArithmeticError Binary64
  | .int a, .int b => divInt a b
  | a, b => do divReal (← a.toReal) (← b.toReal)

/-- The product of an integer and a scalar. -/
def times (n : Int) : Scalar → Except ArithmeticError Scalar
  | .int m => .ok (.int (n * m))
  | .real x => do return .real ((← (Scalar.int n).toReal).mul x)

/-- Whether a scalar is zero or below; not so for what is not a number. -/
def isNonPositive : Scalar → Bool
  | .int n => n ≤ 0
  | .real x => x.le (.zero false)

/-- The text of a scalar, as short as reading it back allows. -/
def toText : Scalar → Except ArithmeticError Text
  | .int n => match Text.writeInt? n with
    | some t => .ok t
    | none => .error .tooManyDigits
  | .real x => .ok x.shortest

end Scalar

namespace Binary64

/-- The result of a conversion to an integer, or why there is none. -/
def asInt (x : Binary64) (conversion : Binary64 → Option Int) : Except ArithmeticError Int :=
  match conversion x with
  | some n => .ok n
  | none => .error (if x = .nan then .notANumber else .overflow)

/-- One half. -/
def half : Binary64 := .finite false (twoPow 52) (-53)

/-- The number one. -/
def one : Binary64 := .finite false (twoPow 52) (-52)

end Binary64

end ScreenScript
