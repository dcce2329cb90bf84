/-!
# Binary floating point, exactly

The 64-bit numbers of IEEE 754, as exact values: a sign, a natural mantissa and a power of two, or
an infinity, or not a number. Every operation computes the exact rational result and rounds it once,
to the nearest representable value and from the middle to the even one. So `round` is the only place
where precision is lost, and nothing depends on the machine.

* `Binary64.round` — the nearest representable value of a fraction
* `Binary64.add`, `mul`, `div` — arithmetic, rounded once
* `Binary64.floor?`, `truncate?`, `nearestInt?` — the three ways to an integer, and `integer?` for
  numbers that are one
* `Binary64.ofBits`, `toBits` — the interchange format
-/

namespace ScreenScript

/-- A 64-bit floating-point number. `finite negative m e` has the magnitude `m · 2 ^ e`. All
functions that make one keep it canonical: `m < 2 ^ 53`, `e ≥ -1074`, and `m ≥ 2 ^ 52` unless
`e = -1074`. -/
inductive Binary64
  /-- not a number -/
  | nan
  /-- an infinity -/
  | inf (negative : Bool)
  /-- a signed multiple of a power of two; zero has a sign, too -/
  | finite (negative : Bool) (mantissa : Nat) (exponent : Int)
  deriving DecidableEq, Repr, Inhabited

namespace Binary64

/-- The least exponent of a mantissa. -/
def minExponent : Int := -1074

/-- The greatest exponent of a mantissa. -/
def maxExponent : Int := 971

/-- Zero with a sign. -/
def zero (negative : Bool) : Binary64 := .finite negative 0 minExponent

/-- A power of two. -/
def twoPow (n : Nat) : Nat := Nat.pow 2 n

/-- `n · 2 ^ e` as a fraction of natural numbers. -/
def fraction (n : Nat) (e : Int) : Nat × Nat :=
  if 0 ≤ e then (n * twoPow e.toNat, 1) else (n, twoPow (-e).toNat)

/-- The natural number nearest to a fraction; from the middle, the even one. -/
def nearestNat (num den : Nat) : Nat :=
  let quotient := num / den
  let remainder := num % den
  if 2 * remainder < den then quotient
  else if den < 2 * remainder then quotient + 1
  else if quotient % 2 = 0 then quotient
  else quotient + 1

/-- The greatest `k` with `2 ^ k ≤ num / den`, for a positive fraction. -/
def floorLog2 (num den : Nat) : Int :=
  let guess : Int := (num.log2 : Int) - (den.log2 : Int)
  let (n, d) := fraction num (-guess)
  if den * d ≤ n then guess else guess - 1

/-- The representable number nearest to a fraction with the given sign. -/
def round (negative : Bool) (num den : Nat) : Binary64 :=
  if num = 0 then
    zero negative
  else
    let exponent := max (floorLog2 num den - 52) minExponent
    let (n, d) := fraction num (-exponent)
    let mantissa := nearestNat n (den * d)
    if mantissa < twoPow 53 then
      if exponent ≤ maxExponent then .finite negative mantissa exponent else .inf negative
    else
      if exponent < maxExponent then .finite negative (twoPow 52) (exponent + 1) else .inf negative

/-- The representable number nearest to an integer, and nothing if it is too large. -/
def ofInt? (n : Int) : Option Binary64 :=
  match round (n < 0) n.natAbs 1 with
  | .inf _ => none
  | x => some x

/-- The exact value of a finite number times `2 ^ 1074`. -/
def scaled (negative : Bool) (mantissa : Nat) (exponent : Int) : Int :=
  let magnitude := mantissa * twoPow (exponent - minExponent).toNat
  if negative then -magnitude else magnitude

/-- The sum of two numbers. -/
def add : Binary64 → Binary64 → Binary64
  | .nan, _ | _, .nan => .nan
  | .inf a, .inf b => if a = b then .inf a else .nan
  | .inf a, _ | _, .inf a => .inf a
  | .finite a m e, .finite b n f =>
    let sum := scaled a m e + scaled b n f
    if sum = 0 then zero (a && b) else round (sum < 0) sum.natAbs (twoPow 1074)

/-- The product of two numbers. -/
def mul : Binary64 → Binary64 → Binary64
  | .nan, _ | _, .nan => .nan
  | .inf a, .inf b => .inf (a != b)
  | .inf a, .finite b m _ | .finite b m _, .inf a => if m = 0 then .nan else .inf (a != b)
  | .finite a m e, .finite b n f =>
    let (num, den) := fraction (m * n) (e + f)
    round (a != b) num den

/-- Whether a number is zero, of either sign. -/
def isZero : Binary64 → Bool
  | .finite _ m _ => m = 0
  | _ => false

/-- The quotient of two numbers, the second of which is not zero. -/
def div : Binary64 → Binary64 → Binary64
  | .nan, _ | _, .nan => .nan
  | .inf _, .inf _ => .nan
  | .inf a, .finite b _ _ => .inf (a != b)
  | .finite a _ _, .inf b => zero (a != b)
  | .finite a m e, .finite b n f =>
    let (num, den) := fraction m (e - f)
    round (a != b) num (den * n)

/-- Whether the first number is at most the second; never, if one is not a number. -/
def le : Binary64 → Binary64 → Bool
  | .nan, _ | _, .nan => false
  | .inf a, .inf b => a || !b
  | .inf a, _ => a
  | _, .inf b => !b
  | .finite a m e, .finite b n f => scaled a m e ≤ scaled b n f

/-! ## From numbers to integers -/

/-- The greatest integer that is at most a finite number. -/
def floor? : Binary64 → Option Int
  | .finite negative m e =>
    let (num, den) := fraction m e
    some (Int.fdiv (if negative then -(num : Int) else num) den)
  | _ => none

/-- A finite number without its fractional digits. -/
def truncate? : Binary64 → Option Int
  | .finite negative m e =>
    let (num, den) := fraction m e
    some (if negative then -((num / den : Nat) : Int) else (num / den : Nat))
  | _ => none

/-- The integer that a finite number is, if it has no fractional part. -/
def integer? : Binary64 → Option Int
  | .finite negative m e =>
    let (num, den) := fraction m e
    if num % den = 0 then
      some (if negative then -((num / den : Nat) : Int) else (num / den : Nat))
    else
      none
  | _ => none

/-- Whether a number is neither infinite nor not a number. -/
def isFinite : Binary64 → Bool
  | .finite _ _ _ => true
  | _ => false

/-- The integer nearest to a finite number; from the middle, the even one. -/
def nearestInt? : Binary64 → Option Int
  | .finite negative m e =>
    let (num, den) := fraction m e
    let n := nearestNat num den
    some (if negative then -(n : Int) else n)
  | _ => none

/-! ## The interchange format -/

/-- The number that 64 bits stand for. -/
def ofBits (bits : Nat) : Binary64 :=
  let negative : Bool := twoPow 63 ≤ bits
  let exponent : Nat := bits / twoPow 52 % twoPow 11
  let fractionBits : Nat := bits % twoPow 52
  if exponent = 2047 then
    if fractionBits = 0 then .inf negative else .nan
  else if exponent = 0 then
    .finite negative fractionBits minExponent
  else
    .finite negative (twoPow 52 + fractionBits) ((exponent : Int) - 1075)

/-- The 64 bits of a canonical number; those of the quiet not-a-number without payload. -/
def toBits : Binary64 → Nat
  | .nan => 0x7ff8000000000000
  | .inf negative => (if negative then twoPow 63 else 0) + 2047 * twoPow 52
  | .finite negative m e =>
    (if negative then twoPow 63 else 0) +
      if m < twoPow 52 then m else (e + 1075).toNat * twoPow 52 + (m - twoPow 52)

end Binary64

end ScreenScript
