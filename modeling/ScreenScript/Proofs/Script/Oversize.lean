import ScreenScript.Proofs.Script.Significant

/-!
# Placeholders that are too long

A placeholder whose number is too long to be read ends a script where it stands. So the script has this
error just if nothing is wrong with the lines before such a placeholder.

* `Placeholder.substitute_eq_none` — which texts cannot be filled
* `Compilation.scan_cons_cases` — what a line does to the lines behind it
* `Compilation.result_eq_oversize` — which scripts have such a placeholder
-/

namespace ScreenScript

/-! ## Texts that cannot be filled -/

namespace Placeholder

variable {stream : DigitStream} {drawn : Nat}

theorem readDigits?_of_long {digits : Text} (h : Text.maxDigits < digits.length)
    (hdigits : ∀ c ∈ digits, Text.isDigit c = true) : Text.readDigits? digits = none := by
  obtain ⟨values, hvalues, hlength⟩ := exists_digitValues? hdigits
  rw [Text.readDigits?, hvalues]
  exact if_neg (by omega)

theorem fill_eq_none {pieces : List Piece} (hlong : ∃ piece ∈ pieces, piece.isShort = false)
    (hdigits : ∀ digits, .hole digits ∈ pieces → ∀ c ∈ digits, Text.isDigit c = true) :
    (fill stream drawn pieces).1 = none := by
  induction pieces generalizing drawn with
  | nil =>
    obtain ⟨piece, hmem, -⟩ := hlong
    cases hmem
  | cons piece rest ih =>
    obtain ⟨long, hmem, hlong⟩ := hlong
    have hrest (hmem : long ∈ rest) (drawn : Nat) : (fill stream drawn rest).1 = none :=
      ih ⟨long, hmem, hlong⟩ fun digits h => hdigits digits (List.mem_cons_of_mem piece h)
    cases piece with
    | plain c =>
      rcases List.mem_cons.1 hmem with rfl | hmem
      · cases hlong
      · rw [fill]
        dsimp only
        rw [hrest hmem]
        rfl
    | hole digits =>
      rw [fill]
      cases hread : Text.readDigits? digits with
      | none => rfl
      | some count =>
        rcases List.mem_cons.1 hmem with rfl | hmem
        · have hlength : Text.maxDigits < digits.length := by simpa [Piece.isShort] using hlong
          rw [readDigits?_of_long hlength (hdigits digits List.mem_cons_self)] at hread
          cases hread
        · dsimp only
          rw [hrest hmem]
          rfl

/-- Just the texts with a placeholder that is too long cannot be filled. -/
theorem substitute_eq_none {t : Text} : (substitute stream drawn t).1 = none ↔ ¬Fits t := by
  constructor
  · intro hnone hfits
    obtain ⟨text, total, hsome⟩ := exists_substitute stream drawn hfits
    rw [hsome] at hnone
    cases hnone
  · intro hfits
    rw [Fits, Classical.not_forall] at hfits
    obtain ⟨piece, hlong⟩ := hfits
    obtain ⟨hmem, hlong⟩ := Classical.not_imp.1 hlong
    exact fill_eq_none ⟨piece, hmem, Bool.eq_false_iff.2 hlong⟩ fun _ hole => isDigit_of_hole_mem hole

end Placeholder

/-! ## Scripts -/

namespace Draft

variable {draft : Draft} {maxRepeats : Int} {line raw : Text} {error : ScriptError}

theorem malformed_of_readStepLine (h : draft.readStepLine maxRepeats line raw = .error error) :
    ∃ fault at_, error = .malformed fault at_ := by
  rw [readStepLine] at h
  split at h
  · split at h
    · exact ⟨_, _, (Except.error.inj h).symm⟩
    · cases h
  · cases h
  · cases h
  · split at h
    · cases h
    · exact ⟨_, _, (Except.error.inj h).symm⟩
  · cases h

/-- What is wrong with a line is the structure of the script. -/
theorem malformed_of_readLine (h : draft.readLine maxRepeats line raw = .error error) :
    ∃ fault at_, error = .malformed fault at_ := by
  rw [readLine] at h
  split at h
  · exact malformed_of_readStepLine h
  · split at h
    · cases h
    · cases h
    · exact malformed_of_readStepLine h

end Draft

namespace Compilation

variable {stream : DigitStream} {maxRepeats : Int} {draft : Draft} {drawn : Nat}

theorem error_scan_cons_of_unfilled {raw : Text} {rest : List Text} (hraw : raw.trim.isSignificant = true)
    (hfits : ¬Placeholder.Fits raw.trim) :
    (scan stream maxRepeats draft drawn (raw :: rest)).error = some .oversizePlaceholder := by
  have hnone : (Placeholder.substitute stream drawn raw.trim).1 = none :=
    Placeholder.substitute_eq_none.2 hfits
  rw [scan, hraw]
  rcases hs : Placeholder.substitute stream drawn raw.trim with ⟨_ | text, total⟩
  · rfl
  · rw [hs] at hnone
    cases hnone

/-- A line lets the lines behind it be read, or it cannot be filled, or it ends the script for another
reason. -/
theorem scan_cons_cases (stream : DigitStream) (maxRepeats : Int) (draft : Draft) (drawn : Nat)
    (raw : Text) :
    (∃ next total, ∀ rest, ∃ ignored, scan stream maxRepeats draft drawn (raw :: rest) =
        { scan stream maxRepeats next total rest with ignored }) ∨
      raw.trim.isSignificant = true ∧ ¬Placeholder.Fits raw.trim ∨
      ∃ fault line, ∀ rest, (scan stream maxRepeats draft drawn (raw :: rest)).error =
        some (.malformed fault line) := by
  simp only [scan]
  cases hraw : raw.trim.isSignificant with
  | false => exact .inl ⟨draft, drawn, fun rest => ⟨_, rfl⟩⟩
  | true =>
    rcases hs : Placeholder.substitute stream drawn raw.trim with ⟨_ | text, total⟩
    · exact .inr (.inl ⟨rfl, Placeholder.substitute_eq_none.1 (congrArg Prod.fst hs)⟩)
    · cases hn : draft.readLine maxRepeats text raw with
      | error error =>
        obtain ⟨fault, line, rfl⟩ := Draft.malformed_of_readLine hn
        exact .inr (.inr ⟨fault, line, fun rest => by simp only [hn]; rfl⟩)
      | ok next => exact .inl ⟨next, total, fun rest => ⟨_, by simp only [hn]; rfl⟩⟩

/-- Lines behind others with which nothing is wrong. -/
theorem error_scan_append {xs ys : List Text} (h : (scan stream maxRepeats draft drawn xs).error = none) :
    (scan stream maxRepeats draft drawn (xs ++ ys)).error =
      (scan stream maxRepeats (scan stream maxRepeats draft drawn xs).draft
        (scan stream maxRepeats draft drawn xs).drawn ys).error := by
  induction xs generalizing draft drawn with
  | nil => rfl
  | cons raw rest ih =>
    rw [List.cons_append]
    rcases scan_cons_cases stream maxRepeats draft drawn raw with
      ⟨next, total, hstep⟩ | ⟨hraw, hfits⟩ | ⟨fault, line, herror⟩
    · obtain ⟨ignored, hrest⟩ := hstep rest
      obtain ⟨ignored', hall⟩ := hstep (rest ++ ys)
      rw [hrest] at h ⊢
      rw [hall]
      exact ih h
    · rw [error_scan_cons_of_unfilled hraw hfits] at h
      cases h
    · rw [herror] at h
      cases h

theorem error_scan_eq_oversize {lines : List Text} :
    (scan stream maxRepeats draft drawn lines).error = some .oversizePlaceholder ↔
      ∃ before raw after, lines = before ++ raw :: after ∧
        (scan stream maxRepeats draft drawn before).error = none ∧
        raw.trim.isSignificant = true ∧ ¬Placeholder.Fits raw.trim := by
  constructor
  · intro h
    induction lines generalizing draft drawn with
    | nil => cases h
    | cons raw rest ih =>
      rcases scan_cons_cases stream maxRepeats draft drawn raw with
        ⟨next, total, hstep⟩ | ⟨hraw, hfits⟩ | ⟨fault, line, herror⟩
      · obtain ⟨ignored, hrest⟩ := hstep rest
        rw [hrest] at h
        obtain ⟨before, raw', after, rfl, hbefore, hline⟩ := ih h
        obtain ⟨ignored', hfirst⟩ := hstep before
        exact ⟨raw :: before, raw', after, rfl, by rw [hfirst]; exact hbefore, hline⟩
      · exact ⟨[], raw, rest, rfl, rfl, hraw, hfits⟩
      · rw [herror] at h
        cases h
  · rintro ⟨before, raw, after, rfl, hbefore, hraw, hfits⟩
    rw [error_scan_append hbefore]
    exact error_scan_cons_of_unfilled hraw hfits

/-- **Which scripts have a placeholder that is too long.** Those with a line that cannot be filled, where
nothing is wrong with the lines before it. -/
theorem result_eq_oversize {lines : List Text} :
    (ofLines stream drawn maxRepeats lines).result = .error .oversizePlaceholder ↔
      ∃ before raw after, lines = before ++ raw :: after ∧
        (scan stream maxRepeats {} drawn before).error = none ∧
        raw.trim.isSignificant = true ∧ ¬Placeholder.Fits raw.trim := by
  rw [← error_scan_eq_oversize, ofLines, result_finish, outcome]
  cases (scan stream maxRepeats {} drawn lines).error with
  | some error =>
    exact ⟨fun h => congrArg some (Except.error.inj h), fun h => congrArg _ (Option.some.inj h)⟩
  | none =>
    refine ⟨fun h => ?_, fun h => by cases h⟩
    -- a step that is not closed is another error
    have hfinish : Draft.finish (scan stream maxRepeats {} drawn lines).draft =
        .error .oversizePlaceholder := h
    rw [Draft.finish] at hfinish
    split at hfinish <;> cases hfinish

end Compilation

end ScreenScript
