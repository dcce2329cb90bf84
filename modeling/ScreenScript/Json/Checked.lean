import ScreenScript.Json.Reader

/-!
# Checked values

The result of holding a JSON value against an expectation: the value read from it, or everything that
is wrong with it. Unlike a computation that stops at its first error, two checks that are combined
are both made, and their complaints stand one behind the other.

* `Mismatch` — what can be wrong with a value
* `Complaint` — a mismatch and the place where it is
* `Checked` — a value, or complaints; an applicative functor
-/

namespace ScreenScript

/-- What is wrong with a JSON value. -/
inductive Mismatch
  /-- the text is not JSON -/
  | notJson
  /-- not an object -/
  | notObject
  /-- not a string -/
  | notText
  /-- not an array -/
  | notList
  /-- nothing that stands for an integer -/
  | notInt
  /-- a string that no integer is written as -/
  | unreadableInt
  /-- a number with a fractional part where an integer is expected -/
  | fractionalInt
  /-- an infinity, or not a number, where an integer is expected -/
  | infiniteInt
  /-- a number that is out of the range or too long for an integer -/
  | oversizeInt
  /-- nothing that stands for a truth value -/
  | notFlag
  /-- a string or integer that stands for no truth value -/
  | unreadableFlag
  /-- nothing that stands for a number -/
  | notReal
  /-- a string that no number is written as -/
  | unreadableReal
  /-- below the least allowed value -/
  | below
  /-- not above a bound -/
  | notAbove
  /-- above the greatest allowed value -/
  | above
  deriving DecidableEq, Repr

namespace Mismatch

/-- The short name of a mismatch. -/
def name : Mismatch → String
  | notJson => "json_invalid"
  | notObject => "model_type"
  | notText => "string_type"
  | notList => "list_type"
  | notInt => "int_type"
  | unreadableInt => "int_parsing"
  | fractionalInt => "int_from_float"
  | infiniteInt => "finite_number"
  | oversizeInt => "int_parsing_size"
  | notFlag => "bool_type"
  | unreadableFlag => "bool_parsing"
  | notReal => "float_type"
  | unreadableReal => "float_parsing"
  | below => "greater_than_equal"
  | notAbove => "greater_than"
  | above => "less_than_equal"

end Mismatch

/-- One step on the way from a value to a part of it. -/
inductive Place
  /-- the member with this key -/
  | key (k : Text)
  /-- the item at this place -/
  | item (i : Nat)
  deriving DecidableEq, Repr

/-- The text of a step. -/
def Place.toText : Place → Text
  | .key k => k
  | .item i => Text.ofNat i

/-- Something wrong, and where. -/
structure Complaint where
  /-- what is wrong -/
  mismatch : Mismatch
  /-- the way to the part that it is wrong with -/
  place : List Place
  deriving DecidableEq, Repr

namespace Complaint

/-- The complaint about a part, seen from the whole. -/
def under (step : Place) (complaint : Complaint) : Complaint :=
  { complaint with place := step :: complaint.place }

/-- A complaint in words: the place, then what is wrong there. -/
def toText (complaint : Complaint) : Text :=
  ['.'].intercalate (complaint.place.map Place.toText) ++ ' ' :: complaint.mismatch.name.toList

/-- Complaints in words, one behind the other. -/
def listToText (complaints : List Complaint) : Text :=
  ['\n'].intercalate (complaints.map toText)

end Complaint

/-- A value that passed its checks, or what is wrong with it. -/
inductive Checked (α : Type)
  /-- nothing is wrong -/
  | valid (value : α)
  /-- these things are wrong, in order -/
  | invalid (complaints : List Complaint)
  deriving DecidableEq, Repr

namespace Checked

variable {α β : Type}

/-- A function on the value. -/
protected def map (f : α → β) : Checked α → Checked β
  | .valid value => .valid (f value)
  | .invalid complaints => .invalid complaints

/-- A checked function on a checked value, with the complaints of both. -/
protected def seq : Checked (α → β) → Checked α → Checked β
  | .valid f, .valid value => .valid (f value)
  | .valid _, .invalid complaints => .invalid complaints
  | .invalid complaints, .valid _ => .invalid complaints
  | .invalid complaints, .invalid others => .invalid (complaints ++ others)

instance : Applicative Checked where
  pure := .valid
  map := Checked.map
  seq f x := Checked.seq f (x ())

/-- A check of the value, if there is one. -/
def andThen (x : Checked α) (check : α → Checked β) : Checked β :=
  match x with
  | .valid value => check value
  | .invalid complaints => .invalid complaints

/-- A value of which only one thing is wrong. -/
def fail (mismatch : Mismatch) : Checked α := .invalid [⟨mismatch, []⟩]

/-- The value, if nothing is wrong. -/
def value? : Checked α → Option α
  | valid value => some value
  | invalid _ => none

/-- What is wrong. -/
def complaints : Checked α → List Complaint
  | valid _ => []
  | invalid complaints => complaints

/-- The check of a part, seen from the whole. -/
def under (step : Place) : Checked α → Checked α
  | .valid value => .valid value
  | .invalid complaints => .invalid (complaints.map (·.under step))

/-! ## Small laws -/

@[simp] theorem pure_eq (value : α) : (pure value : Checked α) = .valid value := rfl

@[simp] theorem map_valid (f : α → β) (value : α) : f <$> Checked.valid value = .valid (f value) :=
  rfl

@[simp] theorem map_invalid (f : α → β) (complaints : List Complaint) :
    f <$> (Checked.invalid complaints : Checked α) = .invalid complaints := rfl

@[simp] theorem seq_valid (f : α → β) (value : α) :
    Checked.valid f <*> Checked.valid value = .valid (f value) := rfl

/-- A combination is valid exactly if both sides are. -/
theorem seq_eq_valid_iff {f : Checked (α → β)} {x : Checked α} {b : β} :
    f <*> x = .valid b ↔ ∃ g a, f = .valid g ∧ x = .valid a ∧ g a = b := by
  cases f <;> cases x <;> simp [Seq.seq, Checked.seq]

@[simp] theorem value?_map (f : α → β) (x : Checked α) : (f <$> x).value? = x.value?.map f := by
  cases x <;> rfl

@[simp] theorem value?_under (step : Place) (x : Checked α) : (x.under step).value? = x.value? := by
  cases x <;> rfl

theorem value?_eq_some_iff {x : Checked α} {value : α} : x.value? = some value ↔ x = .valid value := by
  cases x <;> simp [value?]

end Checked

end ScreenScript
