import ScreenScript.Script.Compilation

/-!
# Significant lines

Blank lines and comments say nothing, and the placeholders of every other line are filled before the
line is read. So a script is known by its significant lines, and compiling it is reading these one
after the other and looking at what is left.

* `SignificantLine.all?` — the significant lines of a script
* `Draft.readAll` — what they do, one after the other
* `Compilation.result_ofLines` — the result of a script in terms of its significant lines
-/

namespace ScreenScript

/-- A line that counts. -/
structure SignificantLine where
  /-- the line as it stands in the script -/
  raw : Text
  /-- the line without the blanks at its ends, with its placeholders filled -/
  text : Text
  deriving DecidableEq, Repr

/-! ## Placeholders that can be filled -/

namespace Placeholder

/-- Whether a piece is not a placeholder whose number is too long to be read. -/
def Piece.isShort : Piece → Bool
  | plain _ => true
  | hole digits => digits.length ≤ Text.maxDigits

/-- No placeholder of a text has a number that is too long to be read. -/
def Fits (t : Text) : Prop := ∀ piece ∈ cut t, piece.isShort = true

instance (t : Text) : Decidable (Fits t) := inferInstanceAs (Decidable (∀ piece ∈ cut t, _))

/-- What stands in a placeholder consists of digits. -/
theorem isDigit_of_leading? {t digits : Text} (h : leading? t = some digits) :
    ∀ c ∈ digits, Text.isDigit c = true := by
  rw [leading?] at h
  split at h
  · dsimp only at h
    split at h
    · cases h
    · obtain rfl := Option.some.inj h
      exact fun c hc => List.all_eq_true.1 List.all_takeWhile c hc
    · cases h
  · cases h

theorem isDigit_of_hole_mem {t digits : Text} {skip : Nat} (h : .hole digits ∈ cutFrom skip t) :
    ∀ c ∈ digits, Text.isDigit c = true := by
  fun_induction cutFrom skip t with
  | case1 => cases h
  | case2 skip c rest ih => exact ih h
  | case3 c rest found hl ih =>
    rcases List.mem_cons.1 h with heq | h
    · obtain rfl := Piece.hole.inj heq
      exact isDigit_of_leading? hl
    · exact ih h
  | case4 c rest hl ih =>
    rcases List.mem_cons.1 h with heq | h
    · cases heq
    · exact ih h

/-- Digits have values. -/
theorem exists_digitValues? {t : Text} (h : ∀ c ∈ t, Text.isDigit c = true) :
    ∃ values, Text.digitValues? t = some values ∧ values.length = t.length := by
  induction t with
  | nil => exact ⟨[], rfl, rfl⟩
  | cons c rest ih =>
    obtain ⟨value, hvalue⟩ := Option.isSome_iff_exists.1 (h c List.mem_cons_self)
    obtain ⟨values, hvalues, hlength⟩ := ih fun d hd => h d (List.mem_cons_of_mem c hd)
    exact ⟨value :: values, by simp [Text.digitValues?, hvalue, hvalues], by simp [hlength]⟩

/-- A text whose placeholders fit can be filled. -/
theorem exists_fill {stream : DigitStream} {drawn : Nat} {pieces : List Piece}
    (hd : ∀ digits, .hole digits ∈ pieces → ∀ c ∈ digits, Text.isDigit c = true)
    (hs : ∀ piece ∈ pieces, piece.isShort = true) :
    ∃ text total, fill stream drawn pieces = (some text, total) := by
  induction pieces generalizing drawn with
  | nil => exact ⟨[], drawn, rfl⟩
  | cons piece rest ih =>
    have hrest (drawn : Nat) : ∃ text total, fill stream drawn rest = (some text, total) :=
      ih (fun digits h => hd digits (List.mem_cons_of_mem piece h))
        (fun piece' h => hs piece' (List.mem_cons_of_mem piece h))
    cases piece with
    | plain c =>
      obtain ⟨text, total, h⟩ := hrest drawn
      exact ⟨c :: text, total, by rw [fill, h]; rfl⟩
    | hole digits =>
      obtain ⟨values, hvalues, hlength⟩ := exists_digitValues? (hd digits List.mem_cons_self)
      have hshort : digits.length ≤ Text.maxDigits := by
        simpa [Piece.isShort] using hs _ List.mem_cons_self
      have hread : Text.readDigits? digits = some (Text.ofDigitValues values) := by
        rw [Text.readDigits?, hvalues]
        exact if_pos (hlength ▸ hshort)
      obtain ⟨text, total, h⟩ := hrest (drawn + Text.ofDigitValues values)
      exact ⟨draw stream drawn (Text.ofDigitValues values) ++ text, total, by
        rw [fill, hread]
        dsimp only
        rw [h]
        rfl⟩

theorem exists_substitute {t : Text} (stream : DigitStream) (drawn : Nat) (h : Fits t) :
    ∃ text total, substitute stream drawn t = (some text, total) :=
  exists_fill (fun _ hole => isDigit_of_hole_mem hole) h

end Placeholder

/-! ## The significant lines of a script -/

namespace SignificantLine

variable {stream : DigitStream}

/-- Lines with their placeholders filled in order, given how many digits have been drawn before. There
are none if a placeholder is too long. -/
def fill? (stream : DigitStream) : Nat → List Text → Option (List SignificantLine)
  | _, [] => some []
  | drawn, raw :: rest =>
    match Placeholder.substitute stream drawn raw.trim with
    | (none, _) => none
    | (some text, total) => (fill? stream total rest).map (⟨raw, text⟩ :: ·)

/-- The significant lines of a script: neither blank nor a comment, with their placeholders filled. -/
def all? (stream : DigitStream) (drawn : Nat) (lines : List Text) : Option (List SignificantLine) :=
  fill? stream drawn (lines.filter fun raw => raw.trim.isSignificant)

theorem all?_cons_insignificant {drawn : Nat} {raw : Text} {rest : List Text}
    (h : raw.trim.isSignificant = false) : all? stream drawn (raw :: rest) = all? stream drawn rest := by
  rw [all?, List.filter_cons_of_neg (by simp [h]), all?]

/-- Inversion for a significant line that is filled. -/
theorem all?_cons_eq_some {drawn : Nat} {raw : Text} {rest : List Text}
    {significant : List SignificantLine} (hraw : raw.trim.isSignificant = true)
    (h : all? stream drawn (raw :: rest) = some significant) :
    ∃ text total later, Placeholder.substitute stream drawn raw.trim = (some text, total) ∧
      all? stream total rest = some later ∧ significant = ⟨raw, text⟩ :: later := by
  rw [all?, List.filter_cons_of_pos (by simpa using hraw), fill?] at h
  split at h
  · cases h
  · next text total hs =>
    obtain ⟨later, hl, rfl⟩ := Option.map_eq_some_iff.1 h
    exact ⟨text, total, later, hs, hl, rfl⟩

/-- Introduction for a significant line that is filled. -/
theorem all?_cons_of_filled {drawn total : Nat} {raw text : Text} {rest : List Text}
    (hraw : raw.trim.isSignificant = true)
    (hs : Placeholder.substitute stream drawn raw.trim = (some text, total)) :
    all? stream drawn (raw :: rest) = (all? stream total rest).map (⟨raw, text⟩ :: ·) := by
  rw [all?, List.filter_cons_of_pos (by simpa using hraw), fill?, hs, all?]

/-- A script whose placeholders fit has its significant lines. -/
theorem exists_all? (stream : DigitStream) (drawn : Nat) {lines : List Text}
    (h : ∀ raw ∈ lines, raw.trim.isSignificant = true → Placeholder.Fits raw.trim) :
    ∃ significant, all? stream drawn lines = some significant := by
  induction lines generalizing drawn with
  | nil => exact ⟨[], rfl⟩
  | cons raw rest ih =>
    have ih := fun drawn => ih drawn fun raw' hmem => h raw' (List.mem_cons_of_mem raw hmem)
    cases hraw : raw.trim.isSignificant with
    | false =>
      rw [all?_cons_insignificant hraw]
      exact ih drawn
    | true =>
      obtain ⟨text, total, hs⟩ :=
        Placeholder.exists_substitute stream drawn (h raw List.mem_cons_self hraw)
      obtain ⟨later, hl⟩ := ih total
      exact ⟨⟨raw, text⟩ :: later, by rw [all?_cons_of_filled hraw hs, hl]; rfl⟩

end SignificantLine

/-! ## Reading them -/

namespace Draft

/-- Reads significant lines, one after the other. -/
def readAll (maxRepeats : Int) : Draft → List SignificantLine → Except ScriptError Draft
  | draft, [] => .ok draft
  | draft, line :: rest =>
    match draft.readLine maxRepeats line.text line.raw with
    | .error error => .error error
    | .ok next => readAll maxRepeats next rest

/-- What a draft gives when the script ends. -/
def finish (draft : Draft) : Except ScriptError (List Task) :=
  if draft.opened.isSome then
    .error (.malformed (.unclosedStep draft.name) [])
  else
    .ok (Task.markLast draft.tasks)

theorem readAll_cons_of_ok {maxRepeats : Int} {draft next : Draft} {line : SignificantLine}
    {rest : List SignificantLine} (h : draft.readLine maxRepeats line.text line.raw = .ok next) :
    draft.readAll maxRepeats (line :: rest) = next.readAll maxRepeats rest := by
  rw [readAll, h]

theorem readAll_cons_of_error {maxRepeats : Int} {draft : Draft} {line : SignificantLine}
    {rest : List SignificantLine} {error : ScriptError}
    (h : draft.readLine maxRepeats line.text line.raw = .error error) :
    draft.readAll maxRepeats (line :: rest) = .error error := by
  rw [readAll, h]

end Draft

namespace Compilation

variable {stream : DigitStream} {maxRepeats : Int}

/-- What was collected, unless something is wrong. -/
def outcome (compilation : Compilation) : Except ScriptError Draft :=
  match compilation.error with
  | some error => .error error
  | none => .ok compilation.draft

/-- Reading lines of a script is reading the significant ones. -/
theorem outcome_scan {draft : Draft} {drawn : Nat} {lines : List Text}
    {significant : List SignificantLine}
    (h : SignificantLine.all? stream drawn lines = some significant) :
    (scan stream maxRepeats draft drawn lines).outcome = draft.readAll maxRepeats significant := by
  induction lines generalizing draft drawn significant with
  | nil =>
    obtain rfl := Option.some.inj h
    rfl
  | cons raw rest ih =>
    rw [scan]
    cases hraw : raw.trim.isSignificant with
    | false =>
      rw [SignificantLine.all?_cons_insignificant hraw] at h
      exact ih h
    | true =>
      obtain ⟨text, total, later, hs, hl, rfl⟩ := SignificantLine.all?_cons_eq_some hraw h
      rw [hs, Draft.readAll]
      dsimp only
      cases draft.readLine maxRepeats text raw with
      | error error => rfl
      | ok next => exact ih hl

/-- A script that is read to its end has its placeholders filled. -/
theorem exists_all?_of_scan {draft : Draft} {drawn : Nat} {lines : List Text}
    (h : (scan stream maxRepeats draft drawn lines).error = none) :
    ∃ significant, SignificantLine.all? stream drawn lines = some significant := by
  induction lines generalizing draft drawn with
  | nil => exact ⟨[], rfl⟩
  | cons raw rest ih =>
    rw [scan] at h
    cases hraw : raw.trim.isSignificant with
    | false =>
      rw [hraw] at h
      rw [SignificantLine.all?_cons_insignificant hraw]
      exact ih h
    | true =>
      rw [hraw] at h
      rcases hs : Placeholder.substitute stream drawn raw.trim with ⟨_ | text, total⟩
      · rw [hs] at h
        cases h
      · rw [hs] at h
        dsimp only at h
        cases hn : draft.readLine maxRepeats text raw with
        | error error =>
          rw [hn] at h
          cases h
        | ok next =>
          rw [hn] at h
          obtain ⟨later, hl⟩ := ih h
          exact ⟨⟨raw, text⟩ :: later, by rw [SignificantLine.all?_cons_of_filled hraw hs, hl]; rfl⟩

/-- Ending a script is looking at the draft that is left. -/
theorem result_finish (compilation : Compilation) :
    compilation.finish.result = compilation.outcome.bind Draft.finish := by
  obtain ⟨draft, drawn, ignored, error⟩ := compilation
  cases error with
  | some error => rfl
  | none =>
    by_cases h : draft.opened.isSome
    · simp [finish, outcome, result, Draft.finish, Except.bind, h]
    · simp [finish, outcome, result, Draft.finish, Except.bind, h]

/-- The tasks of a script are what its significant lines leave behind. -/
theorem result_ofLines {drawn : Nat} {lines : List Text} {significant : List SignificantLine}
    (h : SignificantLine.all? stream drawn lines = some significant) :
    (ofLines stream drawn maxRepeats lines).result =
      (Draft.readAll maxRepeats {} significant).bind Draft.finish := by
  rw [ofLines, result_finish, outcome_scan h]

/-- A script that has tasks is read to its end. -/
theorem error_scan_of_result {drawn : Nat} {lines : List Text} {tasks : List Task}
    (h : (ofLines stream drawn maxRepeats lines).result = .ok tasks) :
    (scan stream maxRepeats {} drawn lines).error = none := by
  rw [ofLines, result_finish, outcome] at h
  split at h
  · cases h
  · assumption

end Compilation

end ScreenScript
