import ScreenScript.Number.Scalar

/-!
# JSON values

Integers of any size and floating-point numbers are kept apart, as the written form keeps them apart.
An object is the list of its members in the order they were written; of members with equal keys the
last one counts, which is what `member?` says.
-/

namespace ScreenScript

/-- A JSON value. -/
inductive Json
  /-- the value `null` -/
  | null
  /-- a truth value -/
  | bool (b : Bool)
  /-- a number written without point and exponent -/
  | int (n : Int)
  /-- any other number -/
  | real (x : Binary64)
  /-- a string -/
  | str (t : Text)
  /-- an array -/
  | arr (items : List Json)
  /-- an object, its members in order -/
  | obj (members : List (Text × Json))
  deriving Repr, Inhabited

namespace Json

/-- The value of the last member with the key. -/
def member? (key : Text) : List (Text × Json) → Option Json
  | [] => none
  | (k, value) :: rest =>
    match member? key rest with
    | some later => some later
    | none => if k = key then some value else none

@[simp] theorem member?_nil (key : Text) : member? key [] = none := rfl

theorem mem_of_member? {key : Text} {value : Json} {members : List (Text × Json)}
    (h : member? key members = some value) : (key, value) ∈ members := by
  induction members with
  | nil => cases h
  | cons member rest ih =>
    obtain ⟨k, found⟩ := member
    rw [member?] at h
    split at h
    · next hlater => exact List.mem_cons_of_mem _ (ih (hlater.trans h))
    · split at h
      · next hkey =>
        rw [hkey, Option.some.inj h]
        exact List.mem_cons_self
      · cases h

theorem member?_eq_none_iff {key : Text} {members : List (Text × Json)} :
    member? key members = none ↔ key ∉ members.map Prod.fst := by
  induction members with
  | nil => simp
  | cons member rest ih =>
    obtain ⟨k, found⟩ := member
    rw [List.map_cons, List.mem_cons, not_or, ← ih, member?]
    cases member? key rest with
    | some later => simp
    | none => simp [eq_comm]

/-! ## Equality -/

mutual

/-- Whether two values are the same. -/
def same : Json → Json → Bool
  | .null, .null => true
  | .bool a, .bool b => a = b
  | .int m, .int n => m = n
  | .real x, .real y => x = y
  | .str s, .str t => s = t
  | .arr xs, .arr ys => sameItems xs ys
  | .obj xs, .obj ys => sameMembers xs ys
  | _, _ => false

/-- Whether two lists of items are the same. -/
def sameItems : List Json → List Json → Bool
  | [], [] => true
  | x :: xs, y :: ys => same x y && sameItems xs ys
  | _, _ => false

/-- Whether two lists of members are the same. -/
def sameMembers : List (Text × Json) → List (Text × Json) → Bool
  | [], [] => true
  | (k, x) :: xs, (l, y) :: ys => k = l && same x y && sameMembers xs ys
  | _, _ => false

end

mutual

theorem same_iff : ∀ {x y : Json}, same x y = true ↔ x = y
  | .null, y => by cases y <;> simp [same]
  | .bool _, y => by cases y <;> simp [same]
  | .int _, y => by cases y <;> simp [same]
  | .real _, y => by cases y <;> simp [same]
  | .str _, y => by cases y <;> simp [same]
  | .arr xs, y => by cases y <;> simp [same, sameItems_iff]
  | .obj xs, y => by cases y <;> simp [same, sameMembers_iff]

theorem sameItems_iff : ∀ {xs ys : List Json}, sameItems xs ys = true ↔ xs = ys
  | [], ys => by cases ys <;> simp [sameItems]
  | x :: xs, ys => by cases ys <;> simp [sameItems, same_iff, sameItems_iff]

theorem sameMembers_iff : ∀ {xs ys : List (Text × Json)}, sameMembers xs ys = true ↔ xs = ys
  | [], ys => by cases ys <;> simp [sameMembers]
  | (k, x) :: xs, ys => by
    cases ys <;> simp [sameMembers, same_iff, sameMembers_iff, and_assoc, Prod.ext_iff]

end

instance : DecidableEq Json := fun _ _ => decidable_of_iff _ same_iff

end Json

end ScreenScript
