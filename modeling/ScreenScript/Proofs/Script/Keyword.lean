import ScreenScript.Proofs.Text.Trimming
import ScreenScript.Script.Keyword

/-!
# Words in any letter case

A word in any letter case is one whose lower case is known. It has as many letters, blanks stay blanks, and its
first letter does not depend on what follows. So a keyword in any letter case is found, and what stands behind
it is the argument.

* `Text.length_lower` — a word and its lower case are equally long
* `Text.head?_lower_cons` — the first letter in lower case
* `Keyword.argumentBehind?_pad` — a keyword with an argument, and blanks around both
* `Keyword.exists_first` — how a text with a keyword begins
-/

namespace ScreenScript

/-! ## Letters in lower case -/

namespace Text

variable {c d : Char} {t before : Text}

theorem length_lowerChar (h : c ≠ '\u0130') : (lowerChar c).length = 1 := by
  rw [lowerChar, if_neg h]
  split <;> rfl

theorem lowerChar_ne_nil (c : Char) : lowerChar c ≠ [] := by
  rw [lowerChar]
  split
  · exact List.cons_ne_nil _ _
  · split <;> exact List.cons_ne_nil _ _

/-- Only one letter has a lower case of two characters, and one of these is a combining dot. -/
theorem length_lowerAfter (h : '\u0307' ∉ lowerAfter before t) : (lowerAfter before t).length = t.length := by
  induction t generalizing before with
  | nil => rfl
  | cons c rest ih =>
    rw [lowerAfter_cons, List.mem_append, not_or] at h
    have hfirst : (if c = 'Σ' then [if startsCased before && !startsCased rest then 'ς' else 'σ']
        else lowerChar c).length = 1 := by
      split
      · rfl
      next hsigma =>
        refine length_lowerChar ?_
        rintro rfl
        exact h.1 (by rw [if_neg hsigma]; decide)
    rw [lowerAfter_cons, List.length_append, hfirst, ih h.2, List.length_cons, Nat.add_comm]

theorem length_lower (h : '\u0307' ∉ lower t) : (lower t).length = t.length := length_lowerAfter h

/-- Except for sigmas, the first letter in lower case does not depend on what is behind it. -/
theorem head?_lower_cons (h : (lower (c :: t)).head? = some d) (hd : d ≠ 'σ') (hd' : d ≠ 'ς') (t' : Text) :
    (lower (c :: t')).head? = some d := by
  rw [lower, lowerAfter_cons] at h ⊢
  by_cases hc : c = 'Σ'
  · rw [if_pos hc] at h
    have hsigma := Option.some.inj h
    split at hsigma
    · exact absurd hsigma.symm hd'
    · exact absurd hsigma.symm hd
  · rw [if_neg hc, List.head?_append_of_ne_nil _ (lowerChar_ne_nil c)] at h ⊢
    exact h

/-- A blank has no letter case. -/
theorem lowerChar_of_isBlank (h : isBlank c = true) : lowerChar c = [c] := by
  have hapart : ∀ run ∈ caseRuns, ∀ range ∈ blankRanges, range.2 < run.first ∨ run.last < range.1 := by
    decide +kernel
  obtain ⟨range, hrange, hmem⟩ := List.any_eq_true.1 h
  have hnone : caseRuns.find? (·.covers c.toNat) = none := by
    refine List.find?_eq_none.2 fun run hrun hcovers => ?_
    have := hapart run hrun range hrange
    simp only [CaseRun.covers, Bool.and_eq_true, decide_eq_true_eq] at hcovers hmem
    omega
  have hdotted : c ≠ '\u0130' := by
    rintro rfl
    exact absurd h (by decide)
  rw [lowerChar, if_neg hdotted, hnone]

theorem head?_lower_of_isBlank (h : isBlank c = true) (t : Text) : (lower (c :: t)).head? = some c := by
  have hsigma : c ≠ 'Σ' := by
    rintro rfl
    exact absurd h (by decide)
  rw [lower, lowerAfter_cons, if_neg hsigma, lowerChar_of_isBlank h]
  rfl

end Text

/-! ## Keywords -/

namespace Keyword

variable {keyword word body front back action argument : Text} {d : Char}

/-- A text with a keyword begins with its first letter, whatever stands behind that. -/
theorem exists_first (h : argumentBehind? keyword action = some argument) (hfirst : keyword.head? = some d)
    (hd : d ≠ 'σ') (hd' : d ≠ 'ς') :
    ∃ c rest, action = c :: rest ∧ ∀ t, (Text.lower (c :: t)).head? = some d := by
  have hlower : Text.lower (action.take keyword.length) = keyword := by
    by_contra hother
    rw [argumentBehind?, if_neg hother] at h
    cases h
  obtain ⟨_, count, rfl⟩ : ∃ k count, keyword = k :: count :=
    List.exists_cons_of_ne_nil (by rintro rfl; cases hfirst)
  cases action with
  | nil =>
    rw [List.take_nil] at hlower
    cases hlower
  | cons c rest =>
    refine ⟨c, rest, rfl, Text.head?_lower_cons (t := rest.take count.length) ?_ hd hd'⟩
    rw [← hfirst]
    exact congrArg List.head? hlower

/-- A keyword in any letter case with something behind it that is not blank, and blanks around. -/
theorem argumentBehind?_pad (hfront : Text.Blank front) (hback : Text.Blank back) (hword : word.lower = keyword)
    (hdot : '\u0307' ∉ keyword) (hfirst : ∃ d, keyword.head? = some d ∧ Text.isBlank d = false)
    (hbody : body.trim ≠ []) :
    argumentBehind? keyword (Text.trim (front ++ (word ++ body) ++ back)) = some body.trim := by
  obtain ⟨d, hd, hblank⟩ := hfirst
  have hend : Text.trimEnd body ≠ [] := by
    intro hnil
    rw [← Text.trim_trimEnd, hnil] at hbody
    exact hbody rfl
  have hlength : word.length = keyword.length := by
    rw [← hword, Text.length_lower (hword ▸ hdot)]
  have htrim : Text.trim (front ++ (word ++ body) ++ back) = word ++ Text.trimEnd body := by
    rw [Text.trim_pad hfront hback]
    cases word with
    | nil =>
      subst hword
      cases hd
    | cons c rest =>
      have hc : Text.isBlank c = false := by
        by_contra hc
        rw [Bool.not_eq_false] at hc
        rw [← hword, Text.head?_lower_of_isBlank hc] at hd
        obtain rfl := Option.some.inj hd
        rw [hblank] at hc
        cases hc
      rw [List.cons_append, Text.trim_cons_of_not_blank hc, ← List.cons_append, Text.trimEnd_append_of_ne_nil hend]
  rw [argumentBehind?, htrim, ← hlength, List.take_left, if_pos hword, List.drop_left, Text.trim_trimEnd]

end Keyword

end ScreenScript
