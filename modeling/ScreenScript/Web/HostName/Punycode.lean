import ScreenScript.Text.Digit

/-!
# Punycode

A label with characters beyond ASCII is written as its ASCII characters followed by letters and digits
that say where the other characters belong. These are taken in the order of their code points, and
each is told by the distance from the one before, a number in digits of base 36 whose bounds adapt to
the distances seen so far.

* `encode` — the writing of a label
* `decode?` — the label of a writing
-/

namespace ScreenScript.HostName.Punycode

/-- The number of digits. -/
def base : Nat := 36

/-- The first character beyond ASCII. -/
def firstPoint : Nat := 0x80

/-- The bias before the first number. -/
def initialBias : Nat := 72

/-- The digit of a value: a letter up to 25, then a digit of ASCII. -/
def digit (value : Nat) : Char :=
  if value < 26 then Char.ofNat ('a'.toNat + value) else Char.ofNat ('0'.toNat + value - 26)

/-- The value of a digit, in either case of letters. -/
def value? (c : Char) : Option Nat :=
  if 'a' ≤ c && c ≤ 'z' then some (c.toNat - 'a'.toNat)
  else if 'A' ≤ c && c ≤ 'Z' then some (c.toNat - 'A'.toNat)
  else if Text.isAsciiDigit c then some (c.toNat - '0'.toNat + 26)
  else none

/-- The bound at a place, 36 for the first one: a digit below it is the last of its number. -/
def bound (bias place : Nat) : Nat := min 26 (max 1 (place - bias))

theorem bound_pos (bias place : Nat) : 1 ≤ bound bias place := by
  unfold bound
  omega

/-- A distance brought down to the range of the bias, and the bias that this makes for. -/
def shrink (distance bias : Nat) : Nat :=
  if 455 < distance then shrink (distance / 35) (bias + base)
  else bias + base * distance / (distance + 38)
termination_by distance
decreasing_by exact Nat.div_lt_self (by omega) (by omega)

/-- The bias behind a distance, where `count` characters have their places. The first distance is
likely to be a great one and counts for less. -/
def adapted (isFirst : Bool) (distance count : Nat) : Nat :=
  let damped := if isFirst then distance / 700 else distance / 2
  shrink (damped + damped / count) 0

/-! ## Writing -/

/-- The digits of a number from a place on. -/
def writeNumber (bias place number : Nat) : Text :=
  if number < bound bias place then
    [digit number]
  else
    let more := number - bound bias place
    digit (bound bias place + more % (base - bound bias place)) ::
      writeNumber bias (place + base) (more / (base - bound bias place))
termination_by number
decreasing_by
  have := bound_pos bias place
  exact Nat.lt_of_le_of_lt (Nat.div_le_self _ _) (by omega)

/-- A label of which some characters have been told. -/
structure Writing where
  /-- what has been written -/
  written : Text
  /-- the distance from the last character told -/
  distance : Nat
  /-- the bias for the next number -/
  bias : Nat
  /-- how many characters have been told -/
  told : Nat
  deriving DecidableEq, Repr

/-- Passes a character of the label in the search for the places of `point`, where the label has
`plain` characters of ASCII. -/
def Writing.pass (plain point : Nat) (w : Writing) (c : Char) : Writing :=
  if c.toNat < point then
    { w with distance := w.distance + 1 }
  else if c.toNat = point then
    { written := w.written ++ writeNumber w.bias base w.distance
      distance := 0
      bias := adapted (w.told = plain) w.distance (w.told + 1)
      told := w.told + 1 }
  else
    w

/-- Tells the places of the characters, in order, where the characters below `next` have been told. -/
def Writing.tell (label : Text) (plain : Nat) : List Nat → Nat → Writing → Writing
  | [], _, w => w
  | point :: points, next, w =>
    let reached := { w with distance := w.distance + (point - next) * (w.told + 1) }
    let told := label.foldl (Writing.pass plain point) reached
    Writing.tell label plain points (point + 1) { told with distance := told.distance + 1 }

/-- The characters beyond ASCII of a label, in order and each once. -/
def points (label : Text) : List Nat :=
  (((label.map Char.toNat).filter (firstPoint ≤ ·)).mergeSort (· ≤ ·)).eraseDups

/-- The writing of a label. -/
def encode (label : Text) : Text :=
  let plain := label.filter fun c => c.toNat < firstPoint
  let start : Writing := ⟨[], 0, initialBias, plain.length⟩
  plain ++ (if plain = [] then [] else ['-']) ++
    (Writing.tell label plain.length (points label) firstPoint start).written

/-! ## Reading -/

/-- A writing of which some digits have been read. -/
structure Reading where
  /-- the label so far -/
  label : Text
  /-- the code point of the last character told -/
  point : Nat
  /-- the first place for the next one -/
  index : Nat
  /-- the bias for the number that is read -/
  bias : Nat
  /-- the place of its next digit -/
  place : Nat
  /-- the weight of its next digit -/
  weight : Nat
  /-- its digits so far -/
  distance : Nat
  /-- whether no number has been read -/
  isFirst : Bool
  deriving DecidableEq, Repr

/-- The character of a code point, if there is one. -/
def charOf? (point : Nat) : Option Char :=
  if point < 0xD800 || 0xDFFF < point && point < 0x110000 then some (Char.ofNat point) else none

/-- Reads a digit. -/
def Reading.next? (r : Reading) (c : Char) : Option Reading := do
  let value ← value? c
  let distance := r.distance + value * r.weight
  if bound r.bias r.place ≤ value then
    return { r with
      place := r.place + base, weight := r.weight * (base - bound r.bias r.place), distance }
  else
    let count := r.label.length + 1
    let index := (r.index + distance) % count
    let point := r.point + (r.index + distance) / count
    let told ← charOf? point
    return {
      label := r.label.take index ++ told :: r.label.drop index
      point
      index := index + 1
      bias := adapted r.isFirst distance count
      place := base
      weight := 1
      distance := 0
      isFirst := false }

/-- The label of a writing in ASCII, if it is one. The ASCII characters of the label end at the last
hyphen. -/
def decode? (t : Text) : Option Text := do
  let (plain, digits) := (t.cutLast? '-').getD ([], t)
  let start : Reading := ⟨plain, firstPoint, 0, initialBias, base, 1, 0, true⟩
  let last ← digits.foldlM Reading.next? start
  if last.place = base then return last.label else none

end ScreenScript.HostName.Punycode
