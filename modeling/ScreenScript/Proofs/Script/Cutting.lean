import Mathlib.Data.List.Forall2
import ScreenScript.Proofs.Script.Keyword
import ScreenScript.Proofs.Script.Reading
import ScreenScript.Run.Gesture

/-!
# Two ways to cut a keyword

A keyword is found in the lower case of a whole text, or in that of a piece as long as the keyword. The lower
case of a text need not be as long as the text, and what becomes of a letter may depend on its neighbours. But
no keyword holds a letter that comes of two characters or of a neighbourhood, and none ends in an i. So each is
found in both ways just where the letters of the piece, each on its own, become those of the keyword.

* `Text.LowersTo` — letter by letter, a text becomes another one
* `Text.lowerAfter_append`, `Text.exists_lowersTo` — such a beginning of a text, and that of its lower case
* `Keyword.cuts_alike` — both ways find the same
-/

namespace ScreenScript

namespace Text

variable {before t head rest keyword : Text} {c d : Char}

/-- The letters of a text, each on its own, have those of another one as their lower case. -/
def LowersTo (t keyword : Text) : Prop := List.Forall₂ (fun c d => lower [c] = [d]) t keyword

/-- What becomes of the first letter: what becomes of it on its own, but for a sigma at the end of a word. One
letter becomes two characters. -/
theorem lowerAfter_cons_cases (before : Text) (c : Char) (rest : Text) :
    (∃ d, lower [c] = [d] ∧ lowerAfter before (c :: rest) = d :: lowerAfter (c :: before) rest) ∨
      (c = 'Σ' ∧ lowerAfter before (c :: rest) = 'ς' :: lowerAfter (c :: before) rest) ∨
      (c = '\u0130' ∧ lowerAfter before (c :: rest) = 'i' :: '\u0307' :: lowerAfter (c :: before) rest) := by
  rw [lowerAfter_cons]
  by_cases hsigma : c = 'Σ'
  · subst hsigma
    rw [if_pos rfl]
    split
    · exact .inr (.inl ⟨rfl, rfl⟩)
    · exact .inl ⟨'σ', by decide, rfl⟩
  · rw [if_neg hsigma]
    by_cases hdotted : c = '\u0130'
    · subst hdotted
      exact .inr (.inr ⟨rfl, rfl⟩)
    · obtain ⟨d, hd⟩ := List.length_eq_one_iff.1 (length_lowerChar hdotted)
      refine .inl ⟨d, ?_, by rw [hd]; rfl⟩
      rw [lower, lowerAfter_cons, if_neg hsigma, hd]
      rfl

/-- What stands in front, and becomes letter by letter something without a sigma, does so before any text. -/
theorem lowerAfter_append (h : LowersTo head keyword) (hsigma : 'σ' ∉ keyword) :
    lowerAfter before (head ++ rest) = keyword ++ lowerAfter (head.reverse ++ before) rest := by
  induction h generalizing before with
  | nil => rfl
  | @cons c d head keyword hc _ ih =>
    rw [List.mem_cons, not_or] at hsigma
    have hfirst : lowerAfter before (c :: (head ++ rest)) = d :: lowerAfter (c :: before) (head ++ rest) := by
      rcases lowerAfter_cons_cases before c (head ++ rest) with ⟨d', hd', heq⟩ | ⟨rfl, -⟩ | ⟨rfl, -⟩
      · rw [hc] at hd'
        rw [heq, (List.cons.inj hd').1]
      · exact absurd (List.cons.inj (show ['σ'] = [d] from hc)).1 hsigma.1
      · exact absurd (show ['i', '\u0307'] = [d] from hc) (by simp)
    rw [List.cons_append, hfirst, ih hsigma.2, List.reverse_cons, List.append_assoc]
    rfl

/-- A lower case begins with a keyword only where letters become this keyword one by one. If the keyword ended in
an i, that could be the first half of what a capital I with a dot becomes. -/
theorem exists_lowersTo (hfinal : 'ς' ∉ keyword) (hdot : '\u0307' ∉ keyword) (hlast : keyword.getLast? ≠ some 'i')
    (h : keyword <+: lowerAfter before t) : ∃ head rest, t = head ++ rest ∧ LowersTo head keyword := by
  induction keyword generalizing before t with
  | nil => exact ⟨[], t, rfl, .nil⟩
  | cons d keyword ih =>
    rw [List.mem_cons, not_or] at hfinal hdot
    cases t with
    | nil => exact absurd (List.prefix_nil.1 h) (List.cons_ne_nil _ _)
    | cons c t =>
      rcases lowerAfter_cons_cases before c t with ⟨d', hd', heq⟩ | ⟨-, heq⟩ | ⟨-, heq⟩
      · rw [heq, List.cons_prefix_cons] at h
        obtain ⟨rfl, h⟩ := h
        have hlast' : keyword.getLast? ≠ some 'i' := by
          cases keyword with
          | nil => nofun
          | cons e keyword => rwa [List.getLast?_cons_cons] at hlast
        obtain ⟨head, rest, rfl, hhead⟩ := ih hfinal.2 hdot.2 hlast' h
        exact ⟨c :: head, rest, rfl, .cons hd' hhead⟩
      · rw [heq, List.cons_prefix_cons] at h
        exact absurd h.1.symm hfinal.1
      · rw [heq, List.cons_prefix_cons] at h
        obtain ⟨rfl, h⟩ := h
        cases keyword with
        | nil => exact absurd rfl hlast
        | cons e keyword =>
          rw [List.cons_prefix_cons] at h
          exact absurd (h.1 ▸ List.mem_cons_self) hdot.2

end Text

/-! ## Keywords -/

namespace Gesture

/-- The keywords of actions. -/
def keywords : List Text := ["home", "back", "recent", "tap ", "swipe ", "input "].map String.toList

end Gesture

namespace Keyword

/-- The keywords of scripts and of actions. -/
def all : List Text :=
  Command.keywords ++ Line.openers.map Prod.fst ++ Line.headers.map Prod.fst ++
    [Line.memoryWord, Line.closer] ++ Gesture.keywords

variable {keyword t argument : Text}

/-- The lower case of a keyword is found in one way only: letter by letter. -/
structure Plain (keyword : Text) : Prop where
  sigma : 'σ' ∉ keyword
  final : 'ς' ∉ keyword
  dot : '\u0307' ∉ keyword
  last : keyword.getLast? ≠ some 'i'

theorem plain_of_mem_all (h : keyword ∈ all) : Plain keyword := by
  have hall : ∀ keyword ∈ all, 'σ' ∉ keyword ∧ 'ς' ∉ keyword ∧ '\u0307' ∉ keyword ∧
      keyword.getLast? ≠ some 'i' := by decide +kernel
  obtain ⟨hsigma, hfinal, hdot, hlast⟩ := hall keyword h
  exact ⟨hsigma, hfinal, hdot, hlast⟩

/-- The keyword is in front of the text, letter by letter, and what is behind it is the argument. -/
structure Cuts (keyword t argument : Text) : Prop where
  front : Text.LowersTo (t.take keyword.length) keyword
  back : argument = Text.trim (t.drop keyword.length)

/-- A beginning of the text that becomes the keyword is as long as this. -/
theorem lowersTo_take {head rest : Text} (h : Text.LowersTo head keyword) :
    Text.LowersTo ((head ++ rest).take keyword.length) keyword := by
  rwa [← List.Forall₂.length_eq h, List.take_left]

theorem argument?_eq_some_iff (hplain : Plain keyword) :
    argument? keyword t = some argument ↔ Cuts keyword t argument := by
  have hfound : keyword.isPrefixOf t.lower = true ↔ Text.LowersTo (t.take keyword.length) keyword := by
    rw [List.isPrefixOf_iff_prefix]
    constructor
    · intro h
      obtain ⟨head, rest, rfl, hhead⟩ := Text.exists_lowersTo hplain.final hplain.dot hplain.last h
      exact lowersTo_take hhead
    · intro h
      rw [← List.take_append_drop keyword.length t, Text.lower, Text.lowerAfter_append h hplain.sigma]
      exact List.prefix_append _ _
  rw [argument?]
  split
  · next hprefix => exact ⟨fun h => ⟨hfound.1 hprefix, (Option.some.inj h).symm⟩, fun h => congrArg some h.back.symm⟩
  · next hother => exact ⟨fun h => absurd h.symm (Option.some_ne_none _), fun h => absurd (hfound.2 h.front) hother⟩

theorem argumentBehind?_eq_some_iff (hplain : Plain keyword) :
    argumentBehind? keyword t = some argument ↔ Cuts keyword t argument := by
  have hfound : Text.lower (t.take keyword.length) = keyword ↔
      Text.LowersTo (t.take keyword.length) keyword := by
    constructor
    · intro h
      have hfront : keyword <+: Text.lowerAfter [] (t.take keyword.length) := by rw [← Text.lower, h]
      obtain ⟨head, rest, htake, hhead⟩ :=
        Text.exists_lowersTo hplain.final hplain.dot hplain.last hfront
      have hlength := List.length_take_le keyword.length t
      rw [htake, List.length_append, List.Forall₂.length_eq hhead] at hlength
      obtain rfl : rest = [] := List.length_eq_zero_iff.1 (by omega)
      rwa [htake, List.append_nil]
    · intro h
      have hlower : Text.lowerAfter [] (t.take keyword.length ++ []) = _ :=
        Text.lowerAfter_append h hplain.sigma
      rwa [List.append_nil, Text.lowerAfter, List.append_nil] at hlower
  rw [argumentBehind?]
  split
  · next hsame => exact ⟨fun h => ⟨hfound.1 hsame, (Option.some.inj h).symm⟩, fun h => congrArg some h.back.symm⟩
  · next hother => exact ⟨fun h => absurd h.symm (Option.some_ne_none _), fun h => absurd (hfound.2 h.front) hother⟩

theorem argumentBehind?_eq_argument? (hplain : Plain keyword) (t : Text) :
    argumentBehind? keyword t = argument? keyword t :=
  Option.ext fun argument => by rw [argument?_eq_some_iff hplain, argumentBehind?_eq_some_iff hplain]

/-- **Two ways to cut a keyword.** Whether the whole text is put into lower case or only a piece of it, the same
texts have a keyword, with the same argument: those of which as many letters as the keyword has become, each on
its own, those of the keyword. -/
theorem cuts_alike (h : keyword ∈ all) (t : Text) :
    argument? keyword t = argumentBehind? keyword t ∧
      ∀ argument, argument? keyword t = some argument ↔ Cuts keyword t argument := by
  have hplain := plain_of_mem_all h
  exact ⟨(argumentBehind?_eq_argument? hplain t).symm, fun argument => argument?_eq_some_iff hplain⟩

/-- A text that gets longer in lower case, and has its keyword all the same. -/
theorem cuts_alike_of_longer :
    (Text.lower "WAIT \u0130".toList).length = "WAIT \u0130".toList.length + 1 ∧
      argument? "wait ".toList "WAIT \u0130".toList = argumentBehind? "wait ".toList "WAIT \u0130".toList ∧
      argument? "wait ".toList "WAIT \u0130".toList = some ['\u0130'] := by
  have hmem : "wait ".toList ∈ all := by decide
  have hcuts := cuts_alike hmem "WAIT \u0130".toList
  exact ⟨by decide +kernel, hcuts.1, by decide +kernel⟩

/-- A keyword that ended in an i would be found in one way only. -/
example : argument? "hi".toList "H\u0130!".toList = some ['!'] ∧
    argumentBehind? "hi".toList "H\u0130!".toList = none := by decide +kernel

end Keyword

end ScreenScript
