import ScreenScript.Script.Keyword
import ScreenScript.Text.Integer
import Mathlib.Data.List.Forall2

/-!
# The shape of a text

Two texts have the same shape if they differ at most in digits that can be drawn. Reading a line does
not see such a difference: these digits are the lower case of themselves, have no part in the case of a
sigma next to them, occur in no keyword, and make a number as long as other digits do.

* `Text.SameShape` — two texts of the same shape
* `Text.SameShape.lower` — their lower cases have the same shape
* `Text.SameShape.isPrefixOf_eq`, `Text.SameShape.eq_iff` — a keyword is found in both or in neither
* `Text.SameShape.isSome_readInt?` — both are integers or neither is
-/

namespace ScreenScript.Text

/-- Two characters that are the same, or two digits that can be drawn. -/
def SameButDrawn (a b : Char) : Prop :=
  a = b ∨ ∃ v w : Fin 10, a = digitChar v ∧ b = digitChar w

/-- Two texts that differ at most in digits that can be drawn. -/
abbrev SameShape (s t : Text) : Prop := List.Forall₂ SameButDrawn s t

/-- What is the same for all digits that can be drawn is the same for two such characters. -/
theorem SameButDrawn.congr {α : Type} {a b : Char} (h : SameButDrawn a b) (f : Char → α) (value : α)
    (hf : ∀ v, f (digitChar v) = value) : f a = f b := by
  obtain rfl | ⟨v, w, rfl, rfl⟩ := h
  · rfl
  · rw [hf v, hf w]

/-- A digit that can be drawn is a digit of ASCII. -/
theorem isAsciiDigit_digitChar (v : Fin 10) : isAsciiDigit (digitChar v) = true := by
  revert v
  decide

/-- A character that is no digit of ASCII is found in both places or in neither. -/
theorem SameButDrawn.eq_iff {a b c : Char} (h : SameButDrawn a b) (hc : isAsciiDigit c = false) :
    a = c ↔ b = c := by
  have hne : ∀ v, digitChar v ≠ c := by
    rintro v rfl
    rw [isAsciiDigit_digitChar] at hc
    cases hc
  obtain rfl | ⟨v, w, rfl, rfl⟩ := h
  · rfl
  · exact iff_of_false (hne v) (hne w)

namespace SameShape

variable {s t : Text}

theorem refl (t : Text) : SameShape t t := List.forall₂_same.2 fun _ _ => .inl rfl

/-! ## Lower case -/

/-- A drawn digit is no letter, and no character that a search for a letter passes over. -/
theorem startsCased_eq (h : SameShape s t) : startsCased s = startsCased t := by
  have hpassed : ∀ v, isCaseIgnorable (digitChar v) = false := by decide +kernel
  have hcased : ∀ v, isCased (digitChar v) = false := by decide +kernel
  induction h with
  | nil => rfl
  | @cons a b s t hab _ ih =>
    have hcons (c : Char) (rest : Text) :
        startsCased (c :: rest) = if isCaseIgnorable c then startsCased rest else isCased c := by
      rw [startsCased, List.dropWhile_cons]
      split <;> rfl
    rw [hcons, hcons, hab.congr isCaseIgnorable false hpassed,
      hab.congr isCased false hcased, ih]

/-- The lower cases of texts of the same shape have the same shape. -/
theorem lowerAfter {before₁ before₂ : Text} (hb : SameShape before₁ before₂) (h : SameShape s t) :
    SameShape (lowerAfter before₁ s) (lowerAfter before₂ t) := by
  have hsigma : ∀ v, digitChar v ≠ 'Σ' := by decide
  have hlower : ∀ v, lowerChar (digitChar v) = [digitChar v] := by decide +kernel
  induction h generalizing before₁ before₂ with
  | nil => exact .nil
  | @cons a b s t hab hst ih =>
    rw [lowerAfter_cons, lowerAfter_cons]
    refine List.rel_append ?_ (ih (.cons hab hb))
    -- only the case of a sigma depends on what stands around it
    obtain rfl | ⟨v, w, rfl, rfl⟩ := hab
    · rw [startsCased_eq hb, startsCased_eq hst]
      exact refl _
    · rw [if_neg (hsigma v), if_neg (hsigma w), hlower, hlower]
      exact .cons (.inr ⟨v, w, rfl, rfl⟩) .nil

theorem lower (h : SameShape s t) : SameShape s.lower t.lower := lowerAfter .nil h

/-! ## Keywords -/

variable {word : Text}

/-- A keyword without digits is the beginning of both or of neither. -/
theorem isPrefixOf_eq (h : SameShape s t) (hword : word.any isAsciiDigit = false) :
    word.isPrefixOf s = word.isPrefixOf t := by
  induction h generalizing word with
  | nil => rfl
  | cons hab _ ih =>
    cases word with
    | nil => rfl
    | cons c rest =>
      obtain ⟨hdigit, hrest⟩ := Bool.or_eq_false_iff.1 hword
      have hc := hab.eq_iff hdigit
      simp only [List.isPrefixOf, ih hrest, beq_eq_decide, eq_comm, hc]

/-- A keyword without digits is equal to both or to neither. -/
theorem eq_iff (h : SameShape s t) (hword : word.any isAsciiDigit = false) :
    s = word ↔ t = word := by
  induction h generalizing word with
  | nil => rfl
  | cons hab _ ih =>
    cases word with
    | nil => simp
    | cons c rest =>
      obtain ⟨hdigit, hrest⟩ := Bool.or_eq_false_iff.1 hword
      have hc := hab.eq_iff hdigit
      rw [List.cons.injEq, List.cons.injEq, hc, ih hrest]

/-! ## Integers -/

/-- A drawn digit is a digit like any other. -/
theorem digitValue?_digitChar (v : Fin 10) : digitValue? (digitChar v) = some v.val := by
  revert v
  decide

theorem isSome_digitValue? {a b : Char} (h : SameButDrawn a b) :
    (digitValue? a).isSome = (digitValue? b).isSome :=
  h.congr (fun c => (digitValue? c).isSome) true fun v => Option.isSome_of_mem (digitValue?_digitChar v)

/-- How many digits there are in groups that begin with a digit and something behind it. -/
theorem length_groupedDigits?_cons_cons (c next : Char) (rest : Text) :
    (groupedDigits? (c :: next :: rest)).map List.length =
      if (digitValue? c).isSome then
        ((groupedDigits? (if next = '_' then rest else next :: rest)).map List.length).map (· + 1)
      else none := by
  rw [groupedDigits?]
  cases digitValue? c with
  | none => rfl
  | some value =>
    by_cases hnext : next = '_'
    · subst hnext
      cases h : groupedDigits? rest <;> simp [h]
    · cases h : groupedDigits? (next :: rest) <;> simp [h, hnext]

/-- Texts of the same shape are groups of equally many digits, or neither is one. -/
theorem length_groupedDigits? (h : SameShape s t) :
    (groupedDigits? s).map List.length = (groupedDigits? t).map List.length := by
  induction s using groupedDigits?.induct generalizing t with
  | case1 =>
    cases h
    rfl
  | case2 a s ih =>
    obtain ⟨b, t, hab, hst, rfl⟩ := List.forall₂_cons_left_iff.1 h
    -- nothing, an underscore or another digit stands behind the first one
    cases hst with
    | nil =>
      have hdigit := isSome_digitValue? hab
      cases ha : digitValue? a <;> cases hb : digitValue? b <;> simp_all [groupedDigits?]
    | @cons next₁ next₂ s t hnext hst =>
      rw [length_groupedDigits?_cons_cons, length_groupedDigits?_cons_cons, isSome_digitValue? hab]
      have hsep : next₁ = '_' ↔ next₂ = '_' := hnext.eq_iff (by decide)
      split at ih
      · next heq => cases heq
      · next rest heq =>
        obtain ⟨rfl, rfl⟩ := List.cons.inj heq
        obtain rfl := hsep.1 rfl
        rw [if_pos rfl, if_pos rfl, ih hst]
      · next rest hne heq =>
        obtain ⟨rfl, rfl⟩ := List.cons.inj heq
        rw [if_neg hne, if_neg (mt hsep.2 hne), ih (.cons hnext hst)]

/-- Whether digits are too many is a question of how many they are. -/
theorem isSome_readGrouped?_eq (t : Text) :
    (readGrouped? t).isSome = ((groupedDigits? t).map List.length).any (· ≤ maxDigits) := by
  rw [readGrouped?]
  cases groupedDigits? t with
  | none => rfl
  | some values => by_cases h : values.length ≤ maxDigits <;> simp [h]

/-- The sign is read before the digits. -/
theorem isSome_readInt?_cons (c : Char) (rest : Text) :
    (readInt? (c :: rest)).isSome =
      (readGrouped? (if c = '-' ∨ c = '+' then rest else c :: rest)).isSome := by
  by_cases hminus : c = '-'
  · subst hminus
    rw [readInt?, if_pos (.inl rfl)]
    cases readGrouped? rest <;> rfl
  · by_cases hplus : c = '+'
    · subst hplus
      rw [readInt?, if_pos (.inr rfl)]
      cases readGrouped? rest <;> rfl
    · rw [readInt?, if_neg (not_or.2 ⟨hminus, hplus⟩)]
      · cases readGrouped? (c :: rest) <;> rfl
      · exact fun _ h => hminus (List.cons.inj h).1
      · exact fun _ h => hplus (List.cons.inj h).1

/-- Texts of the same shape are both integers or neither is. -/
theorem isSome_readInt? (h : SameShape s t) : (readInt? s).isSome = (readInt? t).isSome := by
  have hgrouped {s t : Text} (h : SameShape s t) :
      (readGrouped? s).isSome = (readGrouped? t).isSome := by
    rw [isSome_readGrouped?_eq, isSome_readGrouped?_eq, length_groupedDigits? h]
  cases h with
  | nil => rfl
  | @cons a b s t hab hst =>
    have hsign : (a = '-' ∨ a = '+') ↔ (b = '-' ∨ b = '+') :=
      or_congr (hab.eq_iff (by decide)) (hab.eq_iff (by decide))
    rw [isSome_readInt?_cons, isSome_readInt?_cons]
    by_cases ha : a = '-' ∨ a = '+'
    · rw [if_pos ha, if_pos (hsign.1 ha), hgrouped hst]
    · rw [if_neg ha, if_neg (mt hsign.2 ha), hgrouped (.cons hab hst)]

end SameShape

end ScreenScript.Text
