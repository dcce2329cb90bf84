import Mathlib.Data.Nat.Digits.Defs
import ScreenScript.Proofs.Script.Expansion
import ScreenScript.Proofs.Script.Statement

/-!
# Filling is scanning

The placeholders of a text are filled as it is scanned from left to right: at each place where a whole
placeholder stands, as many digits of the stream as it says take its place, and the scan goes on behind it; every
other character stays. The lines of a script are scanned one after the other, each with the digits behind those
that the lines before it have drawn.

* `Placeholder.StandsAt` — where a placeholder stands
* `Placeholder.Scans` — the scan of a text, `Placeholder.ScansAll` that of some texts
* `Placeholder.Scans.substitute_eq` — filling a text is scanning it
* `Compilation.fills_by_scanning` — texts and scripts
-/

namespace ScreenScript

namespace Placeholder

variable {stream : DigitStream} {start : Nat} {t out digits digits' behind behind' : Text} {holes : List Text}
  {texts outs : List Text}

/-! ## The scan -/

/-- At the beginning of the text stands a placeholder with these digits, and that behind it. -/
structure StandsAt (t digits behind : Text) : Prop where
  nonempty : digits ≠ []
  isDigit : ∀ c ∈ digits, Text.isDigit c = true
  eq : t = mark ++ digits ++ '%' :: behind

/-- The number that is written with these digits. -/
def number (digits : Text) : Nat := Nat.ofDigits 10 (digits.filterMap Text.digitValue?).reverse

/-- How many digits are drawn for some placeholders. -/
def total (holes : List Text) : Nat := (holes.map number).sum

/-- The scan of a text, behind a number of digits that have been drawn already: the text that comes of it, and the
digits that are written in the placeholders that have been replaced. -/
inductive Scans (stream : DigitStream) : Nat → Text → Text → List Text → Prop
  /-- the text is at its end -/
  | done {start : Nat} : Scans stream start [] [] []
  /-- a placeholder is replaced, and the scan goes on behind it -/
  | replaced {start : Nat} {t digits behind out : Text} {holes : List Text} : StandsAt t digits behind →
    Scans stream (start + number digits) behind out holes →
    Scans stream start t (draw stream start (number digits) ++ out) (digits :: holes)
  /-- a character where no placeholder stands is kept -/
  | kept {start : Nat} {c : Char} {rest out : Text} {holes : List Text} :
    (∀ digits behind, ¬StandsAt (c :: rest) digits behind) → Scans stream start rest out holes →
    Scans stream start (c :: rest) (c :: out) holes

/-- The scan of some texts, each with the digits behind those that have been drawn for the texts before it. -/
inductive ScansAll (stream : DigitStream) : Nat → List Text → List Text → List Text → Prop
  | done {start : Nat} : ScansAll stream start [] [] []
  | next {start : Nat} {t out : Text} {holes later : List Text} {rest outs : List Text} :
    Scans stream start t out holes → ScansAll stream (start + total holes) rest outs later →
    ScansAll stream start (t :: rest) (out :: outs) (holes ++ later)

/-- The numbers in these placeholders can be read. -/
def Legible (holes : List Text) : Prop := ∀ digits ∈ holes, digits.length ≤ Text.maxDigits

instance (holes : List Text) : Decidable (Legible holes) :=
  inferInstanceAs (Decidable (∀ digits ∈ holes, digits.length ≤ Text.maxDigits))

/-! ## Where a placeholder stands -/

theorem takeWhile_digits (h : ∀ c ∈ digits, Text.isDigit c = true) (behind : Text) :
    (digits ++ '%' :: behind).takeWhile Text.isDigit = digits ∧
      (digits ++ '%' :: behind).dropWhile Text.isDigit = '%' :: behind := by
  have hmark : Text.isDigit '%' = false := by decide
  constructor
  · rw [List.takeWhile_append_of_pos h, List.takeWhile_cons_of_neg (by simp [hmark]), List.append_nil]
  · rw [List.dropWhile_append_of_pos h, List.dropWhile_cons_of_neg (by simp [hmark])]

theorem StandsAt.leading? (h : StandsAt t digits behind) : leading? t = some digits := by
  obtain ⟨hnonempty, hdigits, rfl⟩ := h
  obtain ⟨htake, hdrop⟩ := takeWhile_digits hdigits behind
  rw [Placeholder.leading?, List.append_assoc, if_pos (by simp), List.drop_left]
  dsimp only
  rw [htake, hdrop]
  cases digits with
  | nil => exact absurd rfl hnonempty
  | cons c rest => rfl

theorem exists_standsAt (h : leading? t = some digits) : ∃ behind, StandsAt t digits behind := by
  have hdigits := isDigit_of_leading? h
  rw [leading?] at h
  split at h
  · next hmark =>
    obtain ⟨rest, rfl⟩ := List.isPrefixOf_iff_prefix.1 hmark
    rw [List.drop_left] at h
    dsimp only at h
    split at h
    · cases h
    · next behind hdrop hne =>
      obtain rfl := Option.some.inj h
      refine ⟨behind, hne, hdigits, ?_⟩
      rw [List.append_assoc, ← hdrop, List.takeWhile_append_dropWhile]
    · cases h
  · cases h

/-- A placeholder ends at the first character that is no digit, so there is one at most. -/
theorem StandsAt.unique (h : StandsAt t digits behind) (h' : StandsAt t digits' behind') :
    digits = digits' ∧ behind = behind' := by
  obtain rfl : digits = digits' := Option.some.inj (h.leading?.symm.trans h'.leading?)
  have heq := h.eq.symm.trans h'.eq
  exact ⟨rfl, (List.cons.inj (List.append_cancel_left heq)).2⟩

theorem leading?_eq_none (h : ∀ digits behind, ¬StandsAt t digits behind) : leading? t = none := by
  cases hleading : leading? t with
  | none => rfl
  | some digits =>
    obtain ⟨behind, hstands⟩ := exists_standsAt hleading
    exact absurd hstands (h digits behind)

theorem not_standsAt_of_leading? (h : leading? t = none) (digits behind : Text) : ¬StandsAt t digits behind := by
  intro hstands
  rw [hstands.leading?] at h
  cases h

/-! ## The scan of a text -/

/-- There is one scan of a text at most. -/
theorem Scans.unique {out' : Text} {holes' : List Text} (h : Scans stream start t out holes)
    (h' : Scans stream start t out' holes') : out = out' ∧ holes = holes' := by
  induction h generalizing out' holes' with
  | done =>
    cases h' with
    | done => exact ⟨rfl, rfl⟩
    | replaced hstands _ => exact absurd hstands.eq (by simp)
  | replaced hstands _ ih =>
    cases h' with
    | done => exact absurd hstands.eq (by simp)
    | replaced hstands' hrest' =>
      obtain ⟨rfl, rfl⟩ := hstands.unique hstands'
      obtain ⟨rfl, rfl⟩ := ih hrest'
      exact ⟨rfl, rfl⟩
    | kept hnone _ => exact absurd hstands (hnone _ _)
  | kept hnone _ ih =>
    cases h' with
    | replaced hstands _ => exact absurd hstands (hnone _ _)
    | kept _ hrest' =>
      obtain ⟨rfl, rfl⟩ := ih hrest'
      exact ⟨rfl, rfl⟩

theorem StandsAt.length_lt (h : StandsAt t digits behind) : behind.length < t.length := by
  rw [h.eq, List.length_append, List.length_append, List.length_cons]
  omega

/-- Every text can be scanned. -/
theorem exists_scans (stream : DigitStream) (start : Nat) (t : Text) :
    ∃ out holes, Scans stream start t out holes := by
  -- on the length: behind a placeholder, the scan goes on with a text that is shorter by more than a character
  induction hlength : t.length using Nat.strong_induction_on generalizing t start with
  | _ length ih =>
    subst hlength
    cases hleading : leading? t with
    | some digits =>
      obtain ⟨behind, hstands⟩ := exists_standsAt hleading
      obtain ⟨out, holes, hrest⟩ := ih _ hstands.length_lt (start + number digits) behind rfl
      exact ⟨_, _, .replaced hstands hrest⟩
    | none =>
      cases t with
      | nil => exact ⟨[], [], .done⟩
      | cons c rest =>
        obtain ⟨out, holes, hrest⟩ := ih _ (Nat.lt_succ_self _) start rest rfl
        exact ⟨_, _, .kept (not_standsAt_of_leading? hleading) hrest⟩

/-! ## Filling a text -/

theorem cutFrom_append (skipped rest : Text) : cutFrom skipped.length (skipped ++ rest) = cut rest := by
  induction skipped with
  | nil => rfl
  | cons c skipped ih => exact ih

theorem mark_eq_cons : mark = '%' :: mark.tail := by decide

theorem StandsAt.cut (h : StandsAt t digits behind) : cut t = .hole digits :: cut behind := by
  have hleading := h.leading?
  have ht : t = '%' :: (mark.tail ++ digits ++ ['%'] ++ behind) := by
    rw [h.eq, mark_eq_cons]
    simp only [List.tail_cons, List.cons_append, List.append_assoc, List.nil_append]
  have hlength : mark.length + digits.length = (mark.tail ++ digits ++ ['%']).length := by
    have hmark := congrArg List.length mark_eq_cons
    simp only [List.length_cons, List.length_append, List.length_nil] at hmark ⊢
    omega
  -- the cut skips what is left of the placeholder behind its first character
  rw [ht] at hleading ⊢
  rw [Placeholder.cut, cutFrom, hleading]
  dsimp only
  rw [hlength, cutFrom_append]

theorem cut_cons_of_not_standsAt {c : Char} {rest : Text}
    (h : ∀ digits behind, ¬StandsAt (c :: rest) digits behind) : cut (c :: rest) = .plain c :: cut rest := by
  rw [cut, cutFrom, leading?_eq_none h]
  rfl

theorem filterMap_of_digitValues? {values : List Nat} (h : Text.digitValues? t = some values) :
    t.filterMap Text.digitValue? = values := by
  induction t generalizing values with
  | nil => exact Option.some.inj h
  | cons c rest ih =>
    rw [Text.digitValues?] at h
    obtain ⟨value, hvalue, h⟩ := Option.bind_eq_some_iff.1 h
    obtain ⟨later, hlater, h⟩ := Option.bind_eq_some_iff.1 h
    obtain rfl := Option.some.inj h
    rw [List.filterMap_cons_some hvalue, ih hlater]

/-- Digits that are not too many are read as the number that they are written for. -/
theorem readDigits?_eq_number (hdigits : ∀ c ∈ digits, Text.isDigit c = true)
    (hlegible : digits.length ≤ Text.maxDigits) : Text.readDigits? digits = some (number digits) := by
  obtain ⟨values, hvalues, hlength⟩ := exists_digitValues? hdigits
  have hnumber : number digits = Text.ofDigitValues values := by
    rw [number, filterMap_of_digitValues? hvalues, Nat.ofDigits_eq_foldr, List.foldr_reverse, Text.ofDigitValues]
    simp only [Nat.cast_id, Nat.add_comm]
  rw [Text.readDigits?, hvalues, hnumber]
  exact if_pos (hlength ▸ hlegible)

theorem total_cons (digits : Text) (holes : List Text) : total (digits :: holes) = number digits + total holes := by
  rw [total, List.map_cons, List.sum_cons, total]

theorem total_append (holes later : List Text) : total (holes ++ later) = total holes + total later := by
  rw [total, List.map_append, List.sum_append, total, total]

/-- Filling a text is scanning it. -/
theorem Scans.substitute_eq (h : Scans stream start t out holes) (hlegible : Legible holes) :
    substitute stream start t = (some out, start + total holes) := by
  induction h with
  | done => rfl
  | @replaced start t digits behind out holes hstands _ ih =>
    obtain ⟨hdigits, hholes⟩ := List.forall_mem_cons.1 hlegible
    have hrest := ih hholes
    rw [substitute] at hrest
    rw [substitute, hstands.cut, fill, readDigits?_eq_number hstands.isDigit hdigits]
    dsimp only
    rw [hrest, total_cons, Nat.add_assoc]
    rfl
  | kept hnone _ ih =>
    have hrest := ih hlegible
    rw [substitute] at hrest
    rw [substitute, cut_cons_of_not_standsAt hnone, fill, hrest]
    rfl

/-! ## Several texts -/

theorem exists_scansAll (stream : DigitStream) (start : Nat) (texts : List Text) :
    ∃ outs holes, ScansAll stream start texts outs holes := by
  induction texts generalizing start with
  | nil => exact ⟨[], [], .done⟩
  | cons t rest ih =>
    obtain ⟨out, holes, hfirst⟩ := exists_scans stream start t
    obtain ⟨outs, later, hrest⟩ := ih (start + total holes)
    exact ⟨_, _, .next hfirst hrest⟩

theorem Legible.append {later : List Text} (h : Legible (holes ++ later)) : Legible holes ∧ Legible later :=
  ⟨fun digits hmem => h digits (List.mem_append_left later hmem),
    fun digits hmem => h digits (List.mem_append_right holes hmem)⟩

end Placeholder

open Placeholder Text

variable {stream : DigitStream} {start : Nat} {maxRepeats : Int} {outs holes : List Text} {lines : List Text}

/-- The significant lines of a script are those that count, with what comes of their scan. -/
theorem SignificantLine.all?_of_scansAll (h : ScansAll stream start (statements lines) outs holes)
    (hlegible : Legible holes) :
    all? stream start lines =
      some (List.zipWith SignificantLine.mk (lines.filter fun raw => raw.trim.isSignificant) outs) := by
  induction lines generalizing start outs holes with
  | nil => rfl
  | cons raw rest ih =>
    cases hraw : raw.trim.isSignificant with
    | false =>
      rw [statements_cons_of_silent hraw] at h
      rw [all?_cons_insignificant hraw, List.filter_cons_of_neg (by simp [hraw]), ih h hlegible]
    | true =>
      rw [statements_cons_of_significant hraw] at h
      cases h with
      | next hfirst hrest =>
        obtain ⟨hholes, hlater⟩ := hlegible.append
        rw [all?_cons_of_filled hraw (hfirst.substitute_eq hholes), ih hrest hlater,
          List.filter_cons_of_pos (by simpa using hraw)]
        rfl

namespace Compilation

/-- A script that is read to its end draws the digits of all its placeholders. -/
theorem drawn_scan {draft : Draft} (h : ScansAll stream start (statements lines) outs holes)
    (hlegible : Legible holes) (herror : (scan stream maxRepeats draft start lines).error = none) :
    (scan stream maxRepeats draft start lines).drawn = start + total holes := by
  induction lines generalizing draft start outs holes with
  | nil =>
    cases h
    rfl
  | cons raw rest ih =>
    rw [scan] at herror ⊢
    cases hraw : raw.trim.isSignificant with
    | false =>
      rw [statements_cons_of_silent hraw] at h
      rw [hraw] at herror
      exact ih h hlegible herror
    | true =>
      rw [statements_cons_of_significant hraw] at h
      cases h with
      | @next _ _ out holes later _ _ hfirst hrest =>
        obtain ⟨hholes, hlater⟩ := hlegible.append
        have hfilled := hfirst.substitute_eq hholes
        rw [hraw, hfilled] at herror
        rw [hfilled]
        dsimp only at herror ⊢
        cases hnext : draft.readLine maxRepeats out raw with
        | error error =>
          rw [hnext] at herror
          cases herror
        | ok next =>
          rw [hnext] at herror
          rw [total_append, ← Nat.add_assoc]
          exact ih hrest hlater herror

/-- **Placeholders are filled by scanning.** Every text has one scan; if the numbers in the placeholders that it
replaces can be read, filling the text gives what comes of the scan and draws as many digits as they say. The
statements of a script are scanned one after the other, and the script compiles to what comes of them. -/
theorem fills_by_scanning (stream : DigitStream) (start : Nat) :
    (∀ t, ∃ out holes, Scans stream start t out holes ∧
      (∀ out' holes', Scans stream start t out' holes' → out' = out ∧ holes' = holes) ∧
      (Legible holes → substitute stream start t = (some out, start + total holes))) ∧
    ∀ maxRepeats lines, ∃ outs holes, ScansAll stream start (statements lines) outs holes ∧
      (Legible holes →
        (ofLines stream start maxRepeats lines).result =
          (Draft.readAll maxRepeats {}
            (List.zipWith SignificantLine.mk (lines.filter fun raw => raw.trim.isSignificant) outs)).bind
            Draft.finish ∧
        ∀ tasks, (ofLines stream start maxRepeats lines).result = .ok tasks →
          (ofLines stream start maxRepeats lines).drawn = start + total holes) := by
  constructor
  · intro t
    obtain ⟨out, holes, hscans⟩ := exists_scans stream start t
    exact ⟨out, holes, hscans, fun _ _ hother => hother.unique hscans, hscans.substitute_eq⟩
  · intro maxRepeats lines
    obtain ⟨outs, holes, hscans⟩ := exists_scansAll stream start (statements lines)
    refine ⟨outs, holes, hscans, fun hlegible =>
      ⟨result_ofLines (SignificantLine.all?_of_scansAll hscans hlegible), fun tasks hresult => ?_⟩⟩
    rw [ofLines, drawn_finish]
    exact drawn_scan hscans hlegible (error_scan_of_result hresult)

/-- A sign that begins nothing, a number with a zero in front, and a placeholder for no digits. -/
def signs : Text := "%%randomNumber02%%randomNumber0%".toList

/-- Its scan, and what it is filled with behind three digits. -/
theorem fills_by_scanning_signs :
    let stream : DigitStream := fun i => Fin.ofNat 10 i
    Scans stream 3 signs "%34".toList ["02".toList, "0".toList] ∧ Legible ["02".toList, "0".toList] ∧
      substitute stream 3 signs = (some "%34".toList, 5) := by
  intro stream
  have hzero : StandsAt "%randomNumber0%".toList "0".toList [] :=
    ⟨by decide, List.all_eq_true.1 (by decide), by decide⟩
  have htwo : StandsAt "%randomNumber02%%randomNumber0%".toList "02".toList "%randomNumber0%".toList :=
    ⟨by decide, List.all_eq_true.1 (by decide), by decide⟩
  have hsign : leading? signs = none := by decide
  have hscan : Scans stream 3 signs "%34".toList ["02".toList, "0".toList] :=
    .kept (not_standsAt_of_leading? hsign) (.replaced htwo (.replaced hzero .done))
  have hlegible : Legible ["02".toList, "0".toList] := by decide
  obtain ⟨out, holes, -, hunique, hfill⟩ := (fills_by_scanning stream 3).1 signs
  obtain ⟨rfl, rfl⟩ := hunique _ _ hscan
  exact ⟨hscan, hlegible, hfill hlegible⟩

end Compilation

end ScreenScript
