import ScreenScript.Json.Checked
import ScreenScript.Json.Numeral
import ScreenScript.Number.Written

/-!
# Expectations on JSON values

What a member of an object may be. The expectations are lenient: an integer may also be written as a
string, a truth value as a number or a word. `field` looks a member up under one of several keys;
the first key that is present decides, and complaints name it.
-/

namespace ScreenScript.Json

open Checked

/-! ## Single values -/

/-- Expects a string. -/
def checkText : Json → Checked Text
  | .str t => .valid t
  | _ => fail .notText

/-- Expects `null` or what `check` expects. -/
def checkOptional {α : Type} (check : Json → Checked α) : Json → Checked (Option α)
  | .null => .valid none
  | value => some <$> check value

/-- Checks items that stand at `start` and the places behind it. -/
def checkItems {α : Type} (check : Json → Checked α) : Nat → List Json → Checked (List α)
  | _, [] => .valid []
  | start, item :: rest =>
    List.cons <$> (check item).under (.item start) <*> checkItems check (start + 1) rest

/-- Expects an array of what `check` expects. -/
def checkList {α : Type} (check : Json → Checked α) : Json → Checked (List α)
  | .arr items => checkItems check 0 items
  | _ => fail .notList

/-- Expects a string that an integer is written as. -/
def checkWrittenInt (t : Text) : Checked Int :=
  match Numeral.read t with
  | .ok n => .valid n
  | .error .unreadable => fail .unreadableInt
  | .error .oversize => fail .oversizeInt

/-- The least integer of 64 bits. -/
def leastWord : Int := -(Binary64.twoPow 63 : Int)

/-- Expects a floating-point number that is an integer of 64 bits, other than the least one. -/
def checkIntegral (x : Binary64) : Checked Int :=
  if !x.isFinite then
    fail .infiniteInt
  else
    match x.integer? with
    | none => fail .fractionalInt
    | some n => if leastWord < n && n < -leastWord then .valid n else fail .oversizeInt

/-- Expects an integer, or something that stands for one. -/
def checkInt : Json → Checked Int
  | .int n => .valid n
  | .real x => checkIntegral x
  | .bool b => .valid (if b then 1 else 0)
  | .str t => checkWrittenInt t
  | _ => fail .notInt

/-- The words for a truth value. -/
def flagWords : Bool → List Text
  | false => ["0".toList, "f".toList, "false".toList, "n".toList, "no".toList, "off".toList]
  | true => ["1".toList, "t".toList, "true".toList, "y".toList, "yes".toList, "on".toList]

/-- Expects zero or one. -/
def checkBit (n : Int) : Checked Bool :=
  if n = 0 then .valid false else if n = 1 then .valid true else fail .unreadableFlag

/-- Expects a truth value, or something that stands for one. A number beyond 64 bits or with a fractional
part cannot stand for one at all. -/
def checkFlag : Json → Checked Bool
  | .bool b => .valid b
  | .int n => if leastWord ≤ n && n < -leastWord then checkBit n else fail .notFlag
  | .real x => match checkIntegral x with
    | .valid n => checkBit n
    | .invalid _ => fail .notFlag
  | .str t =>
    if (flagWords false).elem t.lower then .valid false
    else if (flagWords true).elem t.lower then .valid true
    else fail .unreadableFlag
  | _ => fail .notFlag

/-- Expects a number, or something that stands for one. An integer that is too large counts as
infinite. -/
def checkReal : Json → Checked Binary64
  | .real x => .valid x
  | .int n => .valid (.round (n < 0) n.natAbs 1)
  | .bool b => .valid (if b then .one else .zero false)
  | .str t => match Binary64.read? t with
    | some x => .valid x
    | none => fail .unreadableReal
  | _ => fail .notReal

/-! ## Bounds -/

/-- Expects an integer that is at least `least`. -/
def checkIntFrom (least : Int) (value : Json) : Checked Int :=
  (checkInt value).andThen fun n => if least ≤ n then .valid n else fail .below

/-- Expects an integer above `bound`. -/
def checkIntAbove (bound : Int) (value : Json) : Checked Int :=
  (checkInt value).andThen fun n => if bound < n then .valid n else fail .notAbove

/-- Expects a number from zero to one. -/
def checkShare (value : Json) : Checked Binary64 :=
  (checkReal value).andThen fun x =>
    if !x.le .one then fail .above
    else if !(Binary64.zero false).le x then fail .below
    else .valid x

/-! ## Members -/

/-- The member under the first of the keys that is present, with that key. -/
def firstMember? (members : List (Text × Json)) : List Text → Option (Text × Json)
  | [] => none
  | key :: others =>
    match member? key members with
    | some value => some (key, value)
    | none => firstMember? members others

/-- Expects that the member under the first of the keys that is present is what `check` expects; if
none is present the value is `absent`. -/
def field {α : Type} (members : List (Text × Json)) (keys : List Text) (absent : α)
    (check : Json → Checked α) : Checked α :=
  match firstMember? members keys with
  | none => .valid absent
  | some (key, value) => (check value).under (.key key)

/-- Expects the text of an object whose members are what `check` expects. -/
def checkObject {α : Type} (check : List (Text × Json) → Checked α) (t : Text) : Checked α :=
  match read? t with
  | none => fail .notJson
  | some (.obj members) => check members
  | some _ => fail .notObject

/-! ## Small laws -/

theorem firstMember?_congr {xs ys : List (Text × Json)} {keys : List Text}
    (h : ∀ key ∈ keys, member? key xs = member? key ys) :
    firstMember? xs keys = firstMember? ys keys := by
  induction keys with
  | nil => rfl
  | cons key others ih =>
    simp only [firstMember?, h key (by simp)]
    rw [ih fun k hk => h k (by simp [hk])]

end ScreenScript.Json
