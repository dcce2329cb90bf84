import Mathlib.Data.List.Nodup
import Mathlib.Logic.Relation
import ScreenScript.Json.Writer
import ScreenScript.Vision.Response

/-!
# The spelling of responses

A response has the same members in whatever order they are written, under whichever of its two keys, and next to
whatever else, with any library that validates as it is documented. Only what a JSON text cannot hold at all makes a
difference: containers that are nested too deep make it unreadable wherever they are.

* `Validator.Documented.validate_congr` — objects in which the same is found are the same records
* `StepResponse.Plain` — objects whose keys are distinct, and in which each member has one spelling
* `StepResponse.Rewording` — one change of how a response is written
* `StepResponse.Gives` — what an object says about a member
* `StepResponse.reworded_alike` — responses that are worded differently
* `StepResponse.rewording_may_be_unreadable` — what is nested too deep
-/

namespace ScreenScript

open Json

variable {object object' : List (Text × Json)} {keys : List Text} {key : Text} {value : Json}
  {validator : Validator} {member : Member}

/-! ## Members under several keys -/

namespace Json

theorem firstMember?_cons_of_some (h : member? key object = some value) (others : List Text) :
    firstMember? object (key :: others) = some (key, value) := by
  rw [firstMember?, h]

theorem firstMember?_eq_some (h : firstMember? object keys = some (key, value)) :
    key ∈ keys ∧ member? key object = some value := by
  induction keys with
  | nil => cases h
  | cons first others ih =>
    rw [firstMember?] at h
    cases hmember : member? first object with
    | some found =>
      rw [hmember] at h
      obtain ⟨rfl, rfl⟩ := Prod.mk.inj (Option.some.inj h)
      exact ⟨List.mem_cons_self, hmember⟩
    | none =>
      rw [hmember] at h
      exact ⟨List.mem_cons_of_mem _ (ih h).1, (ih h).2⟩

theorem firstMember?_eq_none (h : firstMember? object keys = none) (hkey : key ∈ keys) :
    key ∉ object.map Prod.fst := by
  induction keys with
  | nil => cases hkey
  | cons first others ih =>
    rw [firstMember?] at h
    cases hmember : member? first object with
    | some found =>
      rw [hmember] at h
      cases h
    | none =>
      rw [hmember] at h
      rcases List.mem_cons.1 hkey with rfl | hkey
      · exact member?_eq_none_iff.1 hmember
      · exact ih h hkey

/-- Where keys are distinct, each has the value that it is written with. -/
theorem eq_of_mem_of_nodup {value' : Json} (hnodup : (object.map Prod.fst).Nodup) (h : (key, value) ∈ object)
    (h' : (key, value') ∈ object) : value = value' :=
  (Prod.mk.inj (List.inj_on_of_nodup_map hnodup h h' rfl)).2

/-- Members under other keys do not count. -/
theorem member?_filter {other : Text} (h : key ≠ other) (object : List (Text × Json)) :
    member? key (object.filter fun member => member.1 ≠ other) = member? key object := by
  induction object with
  | nil => rfl
  | cons member rest ih =>
    obtain ⟨k, found⟩ := member
    by_cases hk : k = other
    · have hkey : k ≠ key := fun heq => h (heq.symm.trans hk)
      rw [List.filter_cons_of_neg (by simp [hk]), ih, member?, if_neg hkey]
      cases member? key rest <;> rfl
    · rw [List.filter_cons_of_pos (by simp [hk]), member?, member?, ih]

end Json

/-! ## What is validated -/

namespace Validator

/-- Objects in which the same is found are the same records. -/
theorem Documented.validate_congr {t t' : Text} {record : List Member} {values : Record}
    (hvalidator : validator.Documented) (ht : validator.Reads t object) (ht' : validator.Reads t' object')
    (h : ∀ member ∈ record, validator.found? object member = validator.found? object' member)
    (hvalid : validator.validate record t = .valid values) :
    ∃ values', validator.validate record t' = .valid values' ∧
      ∀ member ∈ record, values' member = values member := by
  have hfound : ∀ member ∈ record, (validator.found? object' member).isSome := by
    intro member hmember
    rw [← h member hmember]
    exact (hvalidator.valid ht).1 ⟨values, hvalid⟩ member hmember
  obtain ⟨values', hvalid'⟩ := (hvalidator.valid ht').2 hfound
  refine ⟨values', hvalid', fun member hmember => ?_⟩
  have hvalue := hvalidator.value ht hvalid member hmember
  have hvalue' := hvalidator.value ht' hvalid' member hmember
  exact Option.some.inj (hvalue'.symm.trans ((h member hmember).symm.trans hvalue))

end Validator

namespace StepResponse

/-! ## Wordings -/

/-- The keys of each member of a response, the one that decides first. -/
def fieldKeys : List (List Text) := members.map Member.keys

/-- The keys of an object are distinct, and none of its members has two spellings. -/
structure Plain (object : List (Text × Json)) : Prop where
  distinct : (object.map Prod.fst).Nodup
  spelling : ∀ keys ∈ fieldKeys, ∀ key ∈ keys, ∀ key' ∈ keys, key ∈ object.map Prod.fst →
    key' ∈ object.map Prod.fst → key = key'

/-- A change of how a response is written. -/
inductive Rewording : List (Text × Json) → List (Text × Json) → Prop
  /-- a member is spelled in another way -/
  | respell {keys : List Text} {key key' : Text} (before after : List (Text × Json)) (value : Json) :
    keys ∈ fieldKeys → key ∈ keys → key' ∈ keys →
    Rewording (before ++ (key, value) :: after) (before ++ (key', value) :: after)
  /-- the members are put in another order -/
  | permute {object object' : List (Text × Json)} : object.Perm object' → Rewording object object'
  /-- a member that is unknown is added -/
  | unknown {key : Text} (before after : List (Text × Json)) (value : Json) :
    (∀ keys ∈ fieldKeys, key ∉ keys) → Rewording (before ++ after) (before ++ (key, value) :: after)
  /-- a member without a value is added -/
  | null {keys : List Text} {key : Text} (before after : List (Text × Json)) :
    keys ∈ fieldKeys → key ∈ keys → Rewording (before ++ after) (before ++ (key, .null) :: after)

/-- A key is one of one member only. -/
theorem eq_of_mem_keys :
    ∀ keys ∈ fieldKeys, ∀ keys' ∈ fieldKeys, ∀ key ∈ keys, key ∈ keys' → keys = keys' := by
  decide

/-- The object says that the member with these keys has this value. -/
def Gives (keys : List Text) (object : List (Text × Json)) (value : Json) : Prop :=
  value ≠ .null ∧ ∃ key ∈ keys, (key, value) ∈ object

theorem gives_append_cons {before after : List (Text × Json)} {other : Json} :
    Gives keys (before ++ (key, other) :: after) value ↔
      value ≠ .null ∧ key ∈ keys ∧ value = other ∨ Gives keys (before ++ after) value := by
  simp only [Gives, List.mem_append, List.mem_cons, Prod.mk.injEq]
  constructor
  · rintro ⟨hnull, k, hk, hmem | ⟨rfl, rfl⟩ | hmem⟩
    · exact .inr ⟨hnull, k, hk, .inl hmem⟩
    · exact .inl ⟨hnull, hk, rfl⟩
    · exact .inr ⟨hnull, k, hk, .inr hmem⟩
  · rintro (⟨hnull, hkey, rfl⟩ | ⟨hnull, k, hk, hmem | hmem⟩)
    · exact ⟨hnull, key, hkey, .inr (.inl ⟨rfl, rfl⟩)⟩
    · exact ⟨hnull, k, hk, .inl hmem⟩
    · exact ⟨hnull, k, hk, .inr (.inr hmem)⟩

/-- An object says the same when it is worded differently. -/
theorem Rewording.gives_iff (h : Rewording object object') (hkeys : keys ∈ fieldKeys) (value : Json) :
    Gives keys object value ↔ Gives keys object' value := by
  cases h with
  | @respell keys' key key' before after other hkeys' hkey hkey' =>
    have hsame : key ∈ keys ↔ key' ∈ keys := by
      constructor
      · intro hmem
        rwa [eq_of_mem_keys keys hkeys keys' hkeys' key hmem hkey]
      · intro hmem
        rwa [eq_of_mem_keys keys hkeys keys' hkeys' key' hmem hkey']
    rw [gives_append_cons, gives_append_cons, hsame]
  | permute hperm => simp only [Gives, hperm.mem_iff]
  | unknown before after other hunknown =>
    rw [gives_append_cons]
    exact ⟨.inr, fun hgives => hgives.resolve_left fun hother => hunknown keys hkeys hother.2.1⟩
  | null before after =>
    rw [gives_append_cons]
    exact ⟨.inr, fun hgives => hgives.resolve_left fun hother => hother.1 hother.2.2⟩

/-- However often it is worded differently, forth or back. -/
theorem gives_iff_of_rewordings (h : Relation.EqvGen Rewording object object') (hkeys : keys ∈ fieldKeys)
    (value : Json) : Gives keys object value ↔ Gives keys object' value := by
  induction h with
  | rel object object' hrewording => exact hrewording.gives_iff hkeys value
  | refl object => exact .rfl
  | symm object object' _ ih => exact ih.symm
  | trans object between object' _ _ ih ih' => exact ih.trans ih'

/-! ## What is found -/

theorem keys_mem_fieldKeys (h : member ∈ members) : member.keys ∈ fieldKeys := List.mem_map_of_mem h

/-- A member that a plain object speaks about is what it says. -/
theorem found?_of_gives (hplain : Plain object) (hmember : member ∈ members) (h : Gives member.keys object value) :
    validator.found? object member = validator.check member.kind value := by
  obtain ⟨-, key, hkey, hmem⟩ := h
  have hpresent : key ∈ object.map Prod.fst := List.mem_map_of_mem hmem
  rw [Validator.found?]
  cases hfirst : firstMember? object member.keys with
  | none => exact absurd hpresent (firstMember?_eq_none hfirst hkey)
  | some found =>
    obtain ⟨first, other⟩ := found
    obtain ⟨hfirstKey, hfound⟩ := firstMember?_eq_some hfirst
    have hother := mem_of_member? hfound
    -- the key that is found first is the one that is written, as a member has one spelling only
    obtain rfl := hplain.spelling _ (keys_mem_fieldKeys hmember) first hfirstKey key hkey
      (List.mem_map_of_mem hother) hpresent
    obtain rfl := eq_of_mem_of_nodup hplain.distinct hother hmem
    rfl

/-- A member that an object does not speak about has no value. -/
theorem found?_of_not_gives (hvalidator : validator.Documented) (h : ∀ value, ¬Gives member.keys object value) :
    validator.found? object member = some none := by
  rw [Validator.found?]
  cases hfirst : firstMember? object member.keys with
  | none => rfl
  | some found =>
    obtain ⟨key, value⟩ := found
    obtain ⟨hkey, hfound⟩ := firstMember?_eq_some hfirst
    have hnull : value = .null :=
      Classical.byContradiction fun hne => h value ⟨hne, key, hkey, mem_of_member? hfound⟩
    rw [hnull]
    exact hvalidator.null member.kind

/-- In plain objects that say the same, the same is found. -/
theorem found?_congr (hvalidator : validator.Documented) (hplain : Plain object) (hplain' : Plain object')
    (hmember : member ∈ members)
    (h : ∀ value, Gives member.keys object value ↔ Gives member.keys object' value) :
    validator.found? object member = validator.found? object' member := by
  by_cases hgives : ∃ value, Gives member.keys object value
  · obtain ⟨value, hgives⟩ := hgives
    rw [found?_of_gives hplain hmember hgives, found?_of_gives hplain' hmember ((h value).1 hgives)]
  · have hnot : ∀ value, ¬Gives member.keys object value := fun value hvalue => hgives ⟨value, hvalue⟩
    rw [found?_of_not_gives hvalidator hnot,
      found?_of_not_gives hvalidator fun value => mt (h value).2 (hnot value)]

/-! ## Both spellings -/

theorem nodup_of_mem_fieldKeys : ∀ keys ∈ fieldKeys, keys.Nodup := by decide

/-- Where the first spelling is there, the other one does not count. -/
theorem firstMember?_of_filter {first other : Text} (hpair : [first, other] ∈ fieldKeys)
    (hfirst : first ∈ object.map Prod.fst)
    (h : (object.filter fun entry => entry.1 ≠ other) = object'.filter fun entry => entry.1 ≠ other)
    (hkeys : keys ∈ fieldKeys) : firstMember? object keys = firstMember? object' keys := by
  have hmember {key : Text} (hkey : key ≠ other) : member? key object = member? key object' := by
    rw [← member?_filter hkey, h, member?_filter hkey]
  by_cases hother : other ∈ keys
  · -- a key is one of one member only, so these are the two spellings, and the first one decides
    obtain rfl := eq_of_mem_keys keys hkeys _ hpair other hother (by simp)
    have hne : first ≠ other := by
      rintro rfl
      exact absurd (nodup_of_mem_fieldKeys _ hpair) (by simp)
    cases hfound : member? first object with
    | none => exact absurd hfirst (member?_eq_none_iff.1 hfound)
    | some value =>
      rw [firstMember?_cons_of_some hfound, firstMember?_cons_of_some ((hmember hne).symm.trans hfound)]
  · refine firstMember?_congr fun key hkey => hmember ?_
    rintro rfl
    exact hother hkey

/-! ## Responses that are worded differently -/

/-- A response is no more than the values of its members. -/
theorem ofRecord_congr {values values' : Record} (h : ∀ member ∈ members, values' member = values member) :
    ofRecord values' = ofRecord values := by
  rw [ofRecord, ofRecord, h statusMember (by decide), h failedMember (by decide), h passedMember (by decide),
    h widthMember (by decide), h heightMember (by decide), h actionsMember (by decide),
    h contextMember (by decide), h idMember (by decide)]

/-- Objects in which the same is found are the same response. -/
theorem value?_ofText_congr {t t' : Text} (hvalidator : validator.Documented)
    (ht : validator.Reads t object) (ht' : validator.Reads t' object')
    (h : ∀ member ∈ members, validator.found? object member = validator.found? object' member) :
    (ofText validator t).value? = (ofText validator t').value? := by
  rw [ofText, ofText, Checked.value?_map, Checked.value?_map]
  cases hvalid : validator.validate members t with
  | valid values =>
    obtain ⟨values', hvalid', hvalues⟩ := hvalidator.validate_congr ht ht' h hvalid
    rw [hvalid', Checked.value?, Checked.value?, Option.map_some, Option.map_some, ofRecord_congr hvalues]
  | invalid complaints =>
    cases hvalid' : validator.validate members t' with
    | valid values' =>
      obtain ⟨values, hvalues, -⟩ :=
        hvalidator.validate_congr ht' ht (fun member hmember => (h member hmember).symm) hvalid'
      cases hvalid.symm.trans hvalues
    | invalid complaints' => rfl

/-- **The wording of a response is free.** Let a library validate as it is documented, and let two texts be read as
objects with distinct keys. If both are plain and differ in the spelling and order of their members and as to unknown
members and members without a value, then both are a response or both none, and the responses are the same. If
the first spelling of a member is there, whatever there is under the other one makes no difference. -/
theorem reworded_alike {t t' : Text} (hvalidator : validator.Documented)
    (ht : validator.read t = some (.obj object)) (ht' : validator.read t' = some (.obj object')) :
    (Plain object → Plain object' → Relation.EqvGen Rewording object object' →
      (ofText validator t).value? = (ofText validator t').value?) ∧
    ((object.map Prod.fst).Nodup → (object'.map Prod.fst).Nodup →
      ∀ first other, [first, other] ∈ fieldKeys → first ∈ object.map Prod.fst →
      (object.filter fun entry => entry.1 ≠ other) = (object'.filter fun entry => entry.1 ≠ other) →
      (ofText validator t).value? = (ofText validator t').value?) := by
  constructor
  · intro hplain hplain' h
    refine value?_ofText_congr hvalidator ⟨ht, hplain.distinct⟩ ⟨ht', hplain'.distinct⟩ fun member hmember => ?_
    exact found?_congr hvalidator hplain hplain' hmember
      (gives_iff_of_rewordings h (keys_mem_fieldKeys hmember))
  · intro hdistinct hdistinct' first other hpair hfirst h
    refine value?_ofText_congr hvalidator ⟨ht, hdistinct⟩ ⟨ht', hdistinct'⟩ fun member hmember => ?_
    rw [Validator.found?, Validator.found?,
      firstMember?_of_filter hpair hfirst h (keys_mem_fieldKeys hmember)]

/-- A response with a member spelled in the other way and one without a value, another with an unknown member, and
a third one with both spellings of a member. -/
theorem reworded_alike_of_failed :
    let snake := "\x7b\"failed_assertions\": [\"a\"], \"status\": null\x7d".toList
    let camel := "\x7b\"x\": [1], \"failedAssertions\": [\"a\"]\x7d".toList
    let both := "\x7b\"failedAssertions\": 7, \"failed_assertions\": [\"a\"], \"status\": null\x7d".toList
    (ofText .plain snake).value? = some { failedAssertions := some [['a']] } ∧
      (ofText .plain snake).value? = (ofText .plain camel).value? ∧
      (ofText .plain snake).value? = (ofText .plain both).value? := by
  intro snake camel both
  have hsnake : Validator.plain.read snake =
      some (.obj [("failed_assertions".toList, .arr [.str ['a']]), ("status".toList, .null)]) := by
    decide +kernel
  have hcamel : Validator.plain.read camel =
      some (.obj [("x".toList, .arr [.int 1]), ("failedAssertions".toList, .arr [.str ['a']])]) := by
    decide +kernel
  have hboth : Validator.plain.read both = some (.obj [("failedAssertions".toList, .int 7),
      ("failed_assertions".toList, .arr [.str ['a']]), ("status".toList, .null)]) := by
    decide +kernel
  have hresponse : (ofText .plain snake).value? = some { failedAssertions := some [['a']] } := by decide +kernel
  refine ⟨hresponse,
    (reworded_alike Validator.documented_plain hsnake hcamel).1 ⟨by decide, by decide⟩ ⟨by decide, by decide⟩ ?_,
    (reworded_alike Validator.documented_plain hsnake hboth).2 (by decide) (by decide) _ _
      (by decide : failedMember.keys ∈ fieldKeys) (by decide) (by decide)⟩
  have hstatus : Rewording [("failed_assertions".toList, .arr [.str ['a']])]
      [("failed_assertions".toList, .arr [.str ['a']]), ("status".toList, .null)] :=
    .null [_] [] (by decide : statusMember.keys ∈ fieldKeys) (by decide)
  have hspelling : Rewording [("failed_assertions".toList, .arr [.str ['a']])]
      [("failedAssertions".toList, .arr [.str ['a']])] :=
    .respell [] [] _ (by decide : failedMember.keys ∈ fieldKeys) (by decide) (by decide)
  have hunknown : Rewording [("failedAssertions".toList, .arr [.str ['a']])]
      [("x".toList, .arr [.int 1]), ("failedAssertions".toList, .arr [.str ['a']])] :=
    .unknown [] [_] _ (by decide)
  exact ((Relation.EqvGen.rel _ _ hstatus).symm _ _).trans _ _ _
    ((Relation.EqvGen.rel _ _ hspelling).trans _ _ _ (.rel _ _ hunknown))

/-! ## What is nested too deep -/

/-- Arrays in one another. -/
def nested : Nat → Json
  | 0 => .arr []
  | depth + 1 => .arr [nested depth]

/-- A response is not read any more if an unknown member is added in which arrays are nested too deep. -/
theorem rewording_may_be_unreadable :
    ¬∀ object object', Plain object → Plain object' → Rewording object object' →
      (ofText .plain (Json.write (.obj object))).value? = (ofText .plain (Json.write (.obj object'))).value? := by
  intro h
  have hdeep := h [] [(['x'], nested 250)] ⟨by decide, by decide⟩ ⟨by simp, by decide⟩
    (.unknown [] [] _ (by decide))
  have hread : (ofText .plain (Json.write (.obj []))).value? = some {} := by decide +kernel
  have hunread : (ofText .plain (Json.write (.obj [(['x'], nested 250)]))).value? = none := by decide +kernel
  rw [hread, hunread] at hdeep
  cases hdeep

end StepResponse

end ScreenScript
