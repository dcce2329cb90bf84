import Mathlib.Data.List.TakeWhile
import Mathlib.Data.Nat.Digits.Defs
import ScreenScript.Config.Intervals

/-!
# Numbers that can be written again

An integer is written only if it does not have too many digits, and none that has is ever read: neither from
digits of any script, nor from a string of a configuration, nor as a number of JSON. So every integer that
comes from a file can be shown in a message.

* `Text.Writable` — an integer that does not have too many digits
* `Text.writable_of_readInt?`, `Numeral.writable_of_read`, `Json.writable_of_read?` — integers that are read
* `Intervals.writable_of_ofText` — the number of repetitions that the intervals of a file allow
-/

namespace ScreenScript

/-! ## Digits -/

namespace Text

/-- The integer does not have too many digits to be written. -/
def Writable (n : Int) : Prop := ∃ t, writeInt? n = some t

variable {t : Text} {n : Int}

theorem writable_of_lt (h : n.natAbs < 10 ^ maxDigits) : Writable n := by
  have hlength : (ofNat n.natAbs).length ≤ maxDigits :=
    (Nat.length_toDigits_le_iff (by decide) (by decide)).2 h
  exact ⟨ofInt n, if_pos hlength⟩

/-- Putting digits behind a number makes it at most ten times as large for each of them. -/
theorem foldl_lt {α : Type} {f : Nat → α → Nat} {digits : List α}
    (h : ∀ n, ∀ d ∈ digits, f n d < 10 * (n + 1)) (start : Nat) :
    digits.foldl f start < (start + 1) * 10 ^ digits.length := by
  induction digits generalizing start with
  | nil => simp
  | cons d rest ih =>
    have hfirst : f start d + 1 ≤ 10 * (start + 1) := h start d List.mem_cons_self
    calc rest.foldl f (f start d)
        < (f start d + 1) * 10 ^ rest.length := ih (fun n e he => h n e (List.mem_cons_of_mem d he)) _
      _ ≤ 10 * (start + 1) * 10 ^ rest.length := Nat.mul_le_mul_right _ hfirst
      _ = (start + 1) * 10 ^ (rest.length + 1) := by ring

/-- What has not too many digits can be written, whatever its sign is. -/
theorem writable_of_foldl {α : Type} {f : Nat → α → Nat} {digits : List α}
    (h : ∀ n, ∀ d ∈ digits, f n d < 10 * (n + 1)) (hlength : digits.length ≤ maxDigits) :
    Writable (digits.foldl f 0 : Nat) ∧ Writable (-(digits.foldl f 0 : Nat)) := by
  have hlt : digits.foldl f 0 < 10 ^ maxDigits :=
    calc digits.foldl f 0
        < (0 + 1) * 10 ^ digits.length := foldl_lt h 0
      _ = 10 ^ digits.length := by ring
      _ ≤ 10 ^ maxDigits := Nat.pow_le_pow_right (by decide) hlength
  exact ⟨writable_of_lt (by simpa using hlt), writable_of_lt (by simpa using hlt)⟩

theorem digitValue_lt {c : Char} {value : Nat} (h : digitValue? c = some value) : value < 10 := by
  rw [digitValue?, Option.map_eq_some_iff] at h
  obtain ⟨origin, hfound, rfl⟩ := h
  have hrange := List.find?_some hfound
  simp only [Bool.and_eq_true, decide_eq_true_eq] at hrange
  omega

theorem values_lt_of_groupedDigits? {values : List Nat} (h : groupedDigits? t = some values) :
    ∀ value ∈ values, value < 10 := by
  induction t using groupedDigits?.induct generalizing values with
  | case1 => cases h
  | case2 c rest ih =>
    rw [groupedDigits?] at h
    cases hc : digitValue? c with
    | none =>
      rw [hc] at h
      cases h
    | some value =>
      simp only [hc, Option.bind_eq_bind, Option.bind_some] at h
      have hvalue := digitValue_lt hc
      -- behind the first digit there is nothing, an underscore or another digit
      split at h
      · obtain rfl := Option.some.inj h
        simpa using hvalue
      · obtain ⟨later, hlater, hvalues⟩ := Option.bind_eq_some_iff.1 h
        obtain rfl := Option.some.inj hvalues
        exact List.forall_mem_cons.2 ⟨hvalue, ih hlater⟩
      · next hne =>
        obtain ⟨later, hlater, hvalues⟩ := Option.bind_eq_some_iff.1 h
        obtain rfl := Option.some.inj hvalues
        split at ih
        · next heq => cases heq
        · next heq => exact absurd (List.cons.inj heq).1 hne
        · next heq =>
          obtain ⟨rfl, rfl⟩ := List.cons.inj heq
          exact List.forall_mem_cons.2 ⟨hvalue, ih hlater⟩

/-- Digits with underscores between them can be written again. -/
theorem writable_of_readGrouped? {n : Nat} (h : readGrouped? t = some n) :
    Writable n ∧ Writable (-(n : Int)) := by
  rw [readGrouped?, Option.bind_eq_bind, Option.bind_eq_some_iff] at h
  obtain ⟨values, hvalues, h⟩ := h
  split at h
  · next hlength =>
    obtain rfl := Option.some.inj h
    refine writable_of_foldl (fun n value hvalue => ?_) hlength
    have := values_lt_of_groupedDigits? hvalues value hvalue
    omega
  · cases h

theorem writable_of_readInt? (h : readInt? t = some n) : Writable n := by
  unfold readInt? at h
  simp only [bind_pure_comp, Option.map_eq_map, Option.map_map] at h
  split at h
  all_goals
    obtain ⟨m, hm, rfl⟩ := Option.map_eq_some_iff.1 h
  · exact (writable_of_readGrouped? hm).2
  · exact (writable_of_readGrouped? hm).1
  · exact (writable_of_readGrouped? hm).1

/-- A run of digits of ASCII can be written again, with and without a sign. -/
theorem writable_of_run {run : Text} (hrun : t.takeWhile isAsciiDigit = run)
    (hlength : run.length ≤ maxDigits) (negative : Bool) :
    Writable (if negative then -(ofAsciiDigits run : Int) else ofAsciiDigits run) := by
  have hdigits := writable_of_foldl (f := fun n c => n * 10 + (c.toNat - 48)) (fun n c hc => ?_) hlength
  · cases negative with
    | true => exact hdigits.2
    | false => exact hdigits.1
  · subst hrun
    have hdigit := List.mem_takeWhile_imp hc
    simp only [isAsciiDigit, Bool.and_eq_true, decide_eq_true_eq] at hdigit
    have : c.toNat ≤ 57 := hdigit.2
    omega

end Text

/-! ## Strings -/

namespace Numeral

variable {t : Text} {n : Int}

theorem writable_of_strict (h : strict t = .ok n) : Text.Writable n := by
  rw [strict] at h
  dsimp only at h
  split at h
  · cases h
  · split at h
    · cases h
    · next hlength =>
      split at h
      · cases h
      · obtain rfl := Except.ok.inj h
        exact Text.writable_of_run rfl (Nat.le_of_not_lt hlength) _

/-- An integer that is written as a string can be written again. -/
theorem writable_of_read (h : read t = .ok n) : Text.Writable n := by
  rw [read] at h
  split at h
  · split at h
    · next hcleaned =>
      obtain ⟨cleaned, -, hstrict⟩ := Option.map_eq_some_iff.1 hcleaned
      exact writable_of_strict (hstrict.trans h)
    · cases h
  · exact writable_of_strict h

end Numeral

/-! ## JSON -/

namespace Json

variable {t rest : Text} {json : Json} {n : Int} {list : List (Text × Json)}

/-- Every integer in the value can be written again. -/
inductive Writable : Json → Prop
  | null : Writable .null
  | bool (b : Bool) : Writable (.bool b)
  | int {n : Int} : Text.Writable n → Writable (.int n)
  | real (x : Binary64) : Writable (.real x)
  | str (t : Text) : Writable (.str t)
  | arr {items : List Json} : (∀ item ∈ items, Writable item) → Writable (.arr items)
  | obj {members : List (Text × Json)} : (∀ member ∈ members, Writable member.2) →
    Writable (.obj members)

theorem writable_of_unsigned {negative : Bool} (h : unsigned negative t = some (json, rest)) :
    json.Writable := by
  simp only [unsigned, Option.bind_eq_bind, Option.bind_eq_some_iff, Prod.exists] at h
  obtain ⟨whole, behind, hwhole, h⟩ := h
  split at h
  · cases h
  · next hshape =>
    simp only [Bool.or_eq_true, decide_eq_true_eq, not_or, Nat.not_lt] at hshape
    simp only [Option.bind_eq_some_iff, Prod.exists] at h
    obtain ⟨places, behind, hplaces, exponent, behind, hexponent, h⟩ := h
    split at h
    · have hrun : t.takeWhile Text.isAsciiDigit = whole := by
        rw [digits] at hwhole
        split at hwhole
        · cases hwhole
        · exact (Prod.mk.inj (Option.some.inj hwhole)).1
      obtain ⟨rfl, -⟩ := Prod.mk.inj (Option.some.inj h)
      exact .int (Text.writable_of_run hrun hshape.2 negative)
    · obtain ⟨rfl, -⟩ := Prod.mk.inj (Option.some.inj h)
      exact .real _

theorem writable_of_number (h : number t = some (json, rest)) : json.Writable := by
  rw [number.eq_def] at h
  split at h
  · split at h
    · obtain ⟨rfl, -⟩ := Prod.mk.inj (Option.some.inj h)
      exact .real _
    · exact writable_of_unsigned h
  · exact writable_of_unsigned h

section

variable {reader : Reader Json} (hreader : ∀ t json rest, reader t = some (json, rest) → json.Writable)
  {fuel : Nat}

include hreader

theorem writable_of_items {list : List Json} (h : items reader fuel t = some (list, rest)) :
    ∀ item ∈ list, item.Writable := by
  induction fuel generalizing t list rest with
  | zero => cases h
  | succ fuel ih =>
    simp only [items, Option.bind_eq_bind, Option.bind_eq_some_iff, Prod.exists] at h
    obtain ⟨item, behind, hitem, h⟩ := h
    have hfirst := hreader _ _ _ hitem
    split at h
    · obtain ⟨rfl, -⟩ := Prod.mk.inj (Option.some.inj h)
      simpa using hfirst
    · obtain ⟨⟨later, behind⟩, hlater, h⟩ := Option.bind_eq_some_iff.1 h
      obtain ⟨rfl, -⟩ := Prod.mk.inj (Option.some.inj h)
      exact List.forall_mem_cons.2 ⟨hfirst, ih hlater⟩
    · cases h

theorem writable_of_members (h : members reader fuel t = some (list, rest)) :
    ∀ member ∈ list, member.2.Writable := by
  induction fuel generalizing t list rest with
  | zero => cases h
  | succ fuel ih =>
    rw [members] at h
    split at h
    · simp only [Option.bind_eq_bind, Option.bind_eq_some_iff, Prod.exists] at h
      obtain ⟨key, behind, hkey, h⟩ := h
      split at h
      · simp only [Option.bind_eq_some_iff, Prod.exists] at h
        obtain ⟨item, behind, hitem, h⟩ := h
        have hfirst := hreader _ _ _ hitem
        split at h
        · obtain ⟨rfl, -⟩ := Prod.mk.inj (Option.some.inj h)
          simpa using hfirst
        · obtain ⟨⟨later, behind⟩, hlater, h⟩ := Option.bind_eq_some_iff.1 h
          obtain ⟨rfl, -⟩ := Prod.mk.inj (Option.some.inj h)
          exact List.forall_mem_cons.2 ⟨hfirst, ih hlater⟩
        · cases h
      · cases h
    · cases h

end

theorem writable_of_valueWith {inner : Option (Reader Json)}
    (hinner : ∀ reader, inner = some reader → ∀ t json rest, reader t = some (json, rest) → json.Writable)
    (h : valueWith inner t = some (json, rest)) : json.Writable := by
  have hword {value : Json} {found : Option Text} (hvalue : value.Writable)
      (h : found.map (fun rest => (value, rest)) = some (json, rest)) : json.Writable := by
    obtain ⟨behind, -, heq⟩ := Option.map_eq_some_iff.1 h
    exact (Prod.mk.inj heq).1 ▸ hvalue
  rw [valueWith.eq_def] at h
  split at h
  · obtain ⟨⟨t, behind⟩, -, heq⟩ := Option.map_eq_some_iff.1 h
    obtain ⟨rfl, -⟩ := Prod.mk.inj heq
    exact .str t
  · split at h
    · obtain ⟨rfl, -⟩ := Prod.mk.inj (Option.some.inj h)
      exact .arr nofun
    · simp only [Option.bind_eq_bind, Option.bind_eq_some_iff, Prod.exists] at h
      obtain ⟨reader, hsome, list, behind, hlist, h⟩ := h
      obtain ⟨rfl, -⟩ := Prod.mk.inj (Option.some.inj h)
      exact .arr (writable_of_items (hinner reader hsome) hlist)
  · split at h
    · obtain ⟨rfl, -⟩ := Prod.mk.inj (Option.some.inj h)
      exact .obj nofun
    · simp only [Option.bind_eq_bind, Option.bind_eq_some_iff, Prod.exists] at h
      obtain ⟨reader, hsome, list, behind, hlist, h⟩ := h
      obtain ⟨rfl, -⟩ := Prod.mk.inj (Option.some.inj h)
      exact .obj (writable_of_members (hinner reader hsome) hlist)
  · exact hword (.bool true) h
  · exact hword (.bool false) h
  · exact hword .null h
  · exact hword (.real _) h
  · exact hword (.real _) h
  · exact writable_of_number h

theorem writable_of_value {depth : Nat} (h : value depth t = some (json, rest)) : json.Writable := by
  induction depth generalizing t json rest with
  | zero => exact writable_of_valueWith (fun reader hreader => by cases hreader) h
  | succ depth ih =>
    refine writable_of_valueWith (fun reader hreader => ?_) h
    obtain rfl := Option.some.inj hreader
    exact fun t json rest => ih

/-- Every integer in JSON that is read can be written again. -/
theorem writable_of_read? (h : read? t = some json) : json.Writable := by
  simp only [read?, Option.bind_eq_bind, Option.bind_eq_some_iff, Prod.exists] at h
  obtain ⟨result, behind, hvalue, h⟩ := h
  split at h
  · obtain rfl := Option.some.inj h
    exact writable_of_value hvalue
  · cases h

/-! ## Members -/

/-- A field has the value for its absence, or a member passes its check. -/
theorem exists_of_field {α : Type} {keys : List Text} {absent a : α} {check : Json → Checked α}
    (h : field list keys absent check = .valid a) :
    a = absent ∨ ∃ member ∈ list, check member.2 = .valid a := by
  rw [field] at h
  induction keys with
  | nil => exact .inl (Checked.valid.inj h).symm
  | cons key others ih =>
    rw [firstMember?] at h
    cases hmember : member? key list with
    | none =>
      rw [hmember] at h
      exact ih h
    | some value =>
      rw [hmember] at h
      refine .inr ⟨(key, value), mem_of_member? hmember, ?_⟩
      dsimp only at h ⊢
      cases hcheck : check value with
      | valid a' =>
        rw [hcheck] at h
        exact h
      | invalid complaints =>
        rw [hcheck] at h
        cases h

/-- An integer of 64 bits can be written. -/
theorem writable_of_checkIntegral {x : Binary64} (h : checkIntegral x = .valid n) : Text.Writable n := by
  rw [checkIntegral] at h
  split at h
  · cases h
  · split at h
    · cases h
    · split at h
      · next hbounds =>
        obtain rfl := Checked.valid.inj h
        have hword : leastWord = -(2 ^ 63 : Int) := by decide
        simp only [hword, Bool.and_eq_true, decide_eq_true_eq] at hbounds
        refine Text.writable_of_lt ?_
        calc _ < 10 ^ 19 := by omega
          _ ≤ 10 ^ Text.maxDigits := Nat.pow_le_pow_right (by decide) (by decide)
      · cases h

/-- What is taken for an integer can be written again. -/
theorem writable_of_checkInt (hjson : json.Writable) (h : checkInt json = .valid n) : Text.Writable n := by
  cases json with
  | int n' =>
    obtain rfl := Checked.valid.inj h
    cases hjson with
    | int hn => exact hn
  | real x => exact writable_of_checkIntegral h
  | bool b =>
    obtain rfl := Checked.valid.inj h
    cases b <;> exact ⟨_, rfl⟩
  | str t =>
    rw [checkInt, checkWrittenInt] at h
    split at h
    · next hread =>
      obtain rfl := Checked.valid.inj h
      exact Numeral.writable_of_read hread
    · cases h
    · cases h
  | _ => cases h

theorem writable_of_checkIntAbove {bound : Int} (hjson : json.Writable)
    (h : checkIntAbove bound json = .valid n) : Text.Writable n := by
  rw [checkIntAbove, Checked.andThen.eq_def] at h
  split at h
  · next hcheck =>
    split at h
    · obtain rfl := Checked.valid.inj h
      exact writable_of_checkInt hjson hcheck
    · cases h
  · cases h

end Json

/-! ## Intervals -/

theorem Checked.exists_of_map {α β : Type} {f : α → β} {x : Checked α} {b : β}
    (h : f <$> x = .valid b) : ∃ a, f a = b := by
  cases x with
  | valid a => exact ⟨a, Checked.valid.inj h⟩
  | invalid complaints => cases h

/-- How often a step is repeated at most can be written, if the intervals were read from a text. -/
theorem Intervals.writable_of_ofText {t : Text} {intervals : Intervals} (h : ofText t = .valid intervals) :
    Text.Writable intervals.maxRepeats := by
  rw [ofText, Json.checkObject] at h
  split at h
  · cases h
  · next members hread =>
    obtain hmembers : ∀ member ∈ members, member.2.Writable := by
      cases Json.writable_of_read? hread with
      | obj hmembers => exact hmembers
    -- the number of repetitions is the last of the members, and the others come in front of it
    obtain ⟨make, repeats, hmake, hrepeats, rfl⟩ := Checked.seq_eq_valid_iff.1 h
    have hlast : (make repeats).maxRepeats = repeats := by
      simp only [Checked.seq_eq_valid_iff] at hmake
      obtain ⟨_, _, ⟨_, _, ⟨_, _, ⟨_, _, ⟨_, _, ⟨_, _, hdelay, -, rfl⟩, -, rfl⟩, -, rfl⟩, -, rfl⟩, -, rfl⟩,
        -, rfl⟩ := hmake
      obtain ⟨_, rfl⟩ := Checked.exists_of_map hdelay
      rfl
    rw [hlast]
    rcases Json.exists_of_field hrepeats with rfl | ⟨member, hmem, hcheck⟩
    · exact ⟨_, rfl⟩
    · exact Json.writable_of_checkIntAbove (hmembers member hmem) hcheck
  · cases h

end ScreenScript
