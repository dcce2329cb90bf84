import ScreenScript.Json.Field

/-!
# Libraries for validation

A record is described by its members: the keys that each may stand under, and the kind of its value. A library
holds JSON texts against such descriptions. What a text stands for, what a value may be written as and what is
said about it otherwise is the library's own affair.

* `Member`, `Record` — a member, and the values of members
* `Validator` — a library
* `Validator.found?` — what it has to make of a member, by itself
* `Validator.Documented` — what is documented of one: which key decides, what is left out, and what is passed over
* `Validator.plain` — the library that is used if no other one is given
-/

namespace ScreenScript

/-! ## Records -/

/-- What the value of a member is. -/
inductive MemberKind
  /-- a text -/
  | text
  /-- a list of texts -/
  | texts
  /-- an integer -/
  | integer
  deriving DecidableEq, Repr, Inhabited

/-- The values of a kind. -/
def MemberKind.Value : MemberKind → Type
  | text => Text
  | texts => List Text
  | integer => Int

/-- A member of a record; it may be absent, and its value may be `null`. -/
structure Member where
  /-- the keys that it may stand under, the one that decides first -/
  keys : List Text
  /-- what its value is -/
  kind : MemberKind
  deriving DecidableEq, Repr, Inhabited

/-- The values of members. -/
abbrev Record := (member : Member) → Option member.kind.Value

/-! ## Libraries -/

/-- A library that holds JSON texts against records. -/
structure Validator where
  /-- the value that a text stands for -/
  read : Text → Option Json
  /-- what a value is as a member of a kind; nothing if it cannot be one -/
  check : (kind : MemberKind) → Json → Option (Option kind.Value)
  /-- what a text is as a record with these members -/
  validate : List Member → Text → Checked Record

namespace Validator

/-- What is found of a member: what stands under the first of its keys that is there, or else nothing. -/
def found? (validator : Validator) (object : List (Text × Json)) (member : Member) :
    Option (Option member.kind.Value) :=
  match Json.firstMember? object member.keys with
  | none => some none
  | some (_, value) => validator.check member.kind value

/-- A text is read as an object whose keys are distinct. -/
structure Reads (validator : Validator) (t : Text) (object : List (Text × Json)) : Prop where
  read : validator.read t = some (.obj object)
  distinct : (object.map Prod.fst).Nodup

/-- What is documented of objects whose keys are distinct. -/
structure Documented (validator : Validator) : Prop where
  /-- an object is a record just if what is found of each member is one, whatever else is in it -/
  valid : ∀ {t : Text} {object : List (Text × Json)} {record : List Member}, validator.Reads t object →
    ((∃ values, validator.validate record t = .valid values) ↔
      ∀ member ∈ record, (validator.found? object member).isSome)
  /-- and this is then the value of the member -/
  value : ∀ {t : Text} {object : List (Text × Json)} {record : List Member} {values : Record},
    validator.Reads t object → validator.validate record t = .valid values →
    ∀ member ∈ record, validator.found? object member = some (values member)
  /-- `null` is nothing -/
  null : ∀ kind, validator.check kind .null = some none

/-! ## A plain library -/

/-- Expects a value of a kind, or nothing. -/
def expect : (kind : MemberKind) → Json → Checked (Option kind.Value)
  | .text => Json.checkOptional Json.checkText
  | .texts => Json.checkOptional (Json.checkList Json.checkText)
  | .integer => Json.checkOptional Json.checkInt

/-- Expects a member of an object. -/
def entry (object : List (Text × Json)) (member : Member) : Checked (Option member.kind.Value) :=
  Json.field object member.keys none (expect member.kind)

/-- Expects a record with these members. -/
def recordOf (record : List Member) (object : List (Text × Json)) : Checked Record :=
  if record.all fun member => (entry object member).value?.isSome then
    .valid fun member => (entry object member).value?.getD none
  else
    .invalid (record.flatMap fun member => (entry object member).complaints)

/-- The library that is used if no other one is given. -/
def plain : Validator where
  read := Json.read?
  check kind value := (expect kind value).value?
  validate record := Json.checkObject (recordOf record)

/-- What is found of a member is what is expected of it. -/
theorem found?_plain (object : List (Text × Json)) (member : Member) :
    plain.found? object member = (entry object member).value? := by
  rw [found?, entry, Json.field]
  cases Json.firstMember? object member.keys with
  | none => rfl
  | some found => exact (Checked.value?_under _ _).symm

theorem validate_plain {t : Text} {object : List (Text × Json)} (record : List Member)
    (hread : plain.read t = some (.obj object)) : plain.validate record t = recordOf record object := by
  change Json.checkObject (recordOf record) t = _
  rw [Json.checkObject, show Json.read? t = some (.obj object) from hread]

/-- An object is a record just if every member is there or absent as it has to be, and then the values are
those found. -/
theorem recordOf_eq_valid_iff {record : List Member} {object : List (Text × Json)} {values : Record} :
    recordOf record object = .valid values ↔ (∀ member ∈ record, (plain.found? object member).isSome) ∧
      (fun member => (plain.found? object member).getD none) = values := by
  simp only [found?_plain]
  rw [recordOf]
  split
  next h =>
    rw [List.all_eq_true] at h
    rw [Checked.valid.injEq]
    exact (and_iff_right h).symm
  next h =>
    rw [List.all_eq_true] at h
    exact ⟨nofun, fun hall => absurd hall.1 h⟩

/-- It is as it is documented. -/
theorem documented_plain : plain.Documented where
  valid {t object record} ht := by
    simp only [validate_plain record ht.read, recordOf_eq_valid_iff]
    exact ⟨fun ⟨_, h, _⟩ => h, fun h => ⟨_, h, rfl⟩⟩
  value {t object record values} ht hvalid member hmember := by
    rw [validate_plain record ht.read, recordOf_eq_valid_iff] at hvalid
    obtain ⟨hall, rfl⟩ := hvalid
    obtain ⟨found, hfound⟩ := Option.isSome_iff_exists.1 (hall member hmember)
    simp only [hfound, Option.getD_some]
  null kind := by cases kind <;> rfl

end Validator

end ScreenScript
