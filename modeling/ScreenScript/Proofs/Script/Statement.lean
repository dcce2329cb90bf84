import ScreenScript.Proofs.Script.Definitions

/-!
# Statements

The statements of some lines are what counts of them: the lines that are neither blank nor a comment, without
the blanks at their ends. Macros are defined, calls are replaced and a script is compiled as if the lines were
nothing but their statements; where something is wrong, the line that shows it comes without its blanks.

* `Text.statements` — the statements of some lines
* `MacroTable.ofLines_statements` — the macros that are defined
* `MacroTable.expand_statements` — the script that is left when calls are replaced
* `Compilation.result_statements` — its tasks
-/

namespace ScreenScript

namespace Text

/-- The statements of some lines. -/
def statements (lines : List Text) : List Text := (lines.map trim).filter isSignificant

variable {line : Text} {lines : List Text}

theorem statements_cons_of_significant (h : line.trim.isSignificant = true) (lines : List Text) :
    statements (line :: lines) = line.trim :: statements lines := by
  simp [statements, h]

theorem statements_cons_of_silent (h : line.trim.isSignificant = false) (lines : List Text) :
    statements (line :: lines) = statements lines := by
  simp [statements, h]

theorem statements_append (lines others : List Text) :
    statements (lines ++ others) = statements lines ++ statements others := by
  simp [statements]

end Text

open Text

/-- The error, with the line that shows it without the blanks at its ends. -/
def ScriptError.trimmed : ScriptError → ScriptError
  | malformed fault line => malformed fault line.trim
  | oversizePlaceholder => oversizePlaceholder

/-! ## Macros -/

namespace MacroTable

variable {line : Text}

theorem Mark.ofLine?_trim (line : Text) : ofLine? line.trim = ofLine? line := by
  simp only [ofLine?, trim_trim]

theorem readLine_trim (progress : Progress) (line : Text) :
    readLine progress line.trim = (readLine progress line).mapError ScriptError.trimmed := by
  rw [readLine_eq, readLine_eq, Mark.ofLine?_trim]
  cases Mark.ofLine? line with
  | none => rfl
  | some mark => cases mark <;> cases progress.opened <;> rfl

theorem readLine_of_silent (h : line.trim.isSignificant = false) (progress : Progress) :
    readLine progress line = .ok progress := by
  simp [readLine, h]

theorem readLines_statements (progress : Progress) (lines : List Text) :
    readLines progress (statements lines) = (readLines progress lines).mapError ScriptError.trimmed := by
  induction lines generalizing progress with
  | nil => rfl
  | cons line rest ih =>
    cases hline : line.trim.isSignificant with
    | false => rw [statements_cons_of_silent hline, readLines, readLine_of_silent hline, ih]
    | true =>
      rw [statements_cons_of_significant hline, readLines, readLines, readLine_trim]
      cases readLine progress line with
      | error error => rfl
      | ok next => exact ih next

/-- A file of macros defines what its statements define. -/
theorem ofLines_statements (lines : List Text) :
    ofLines (statements lines) = (ofLines lines).mapError ScriptError.trimmed := by
  rw [ofLines_eq, ofLines_eq, readLines_statements]
  cases readLines {} lines with
  | error error => rfl
  | ok progress =>
    change progress.finish = progress.finish.mapError ScriptError.trimmed
    rw [Progress.finish]
    cases progress.opened <;> rfl

/-! ## Calls -/

theorem called?_trim (line : Text) : called? line.trim = called? line := by
  simp only [called?, trim_trim]

/-- A blank line or a comment calls nothing. -/
theorem called?_of_silent (h : line.trim.isSignificant = false) : called? line = none := by
  rw [called?, if_neg]
  intro hcall
  obtain ⟨rest, hrest⟩ := List.isPrefixOf_iff_prefix.1 hcall
  rw [← hrest] at h
  cases h

theorem expand_of_no_call {table : MacroTable} (h : called? line = none) (rest : List Text) :
    table.expand (line :: rest) = (table.expand rest).map (line :: ·) := by
  rw [expand, h]
  cases table.expand rest <;> rfl

theorem expand_of_call {table : MacroTable} {name : Text} {body : List Text} (hcall : called? line = some name)
    (hbody : table.lookup? name = some body) (rest : List Text) :
    table.expand (line :: rest) = (table.expand rest).map (body ++ ·) := by
  rw [expand, hcall]
  dsimp only
  rw [hbody]
  cases table.expand rest <;> rfl

/-- The statements of what a piece puts in front of the rest. -/
theorem map_statements_front {front front' : List Text → List Text} {r r' : Except ScriptError (List Text)}
    (hfront : ∀ {lines lines'}, statements lines = statements lines' →
      statements (front lines) = statements (front' lines'))
    (h : r.map statements = (r'.map statements).mapError ScriptError.trimmed) :
    (r.map front).map statements = ((r'.map front').map statements).mapError ScriptError.trimmed := by
  cases r with
  | error error =>
    cases r' with
    | error error' => exact h
    | ok lines' => cases h
  | ok lines =>
    cases r' with
    | error error' => cases h
    | ok lines' => exact congrArg Except.ok (hfront (Except.ok.inj h))

/-- What is left of a script when its calls are replaced has the statements that are left of its statements. -/
theorem expand_statements (table : MacroTable) (lines : List Text) :
    (table.expand (statements lines)).map statements =
      ((table.expand lines).map statements).mapError ScriptError.trimmed := by
  induction lines with
  | nil => rfl
  | cons line rest ih =>
    cases hline : line.trim.isSignificant with
    | false =>
      rw [statements_cons_of_silent hline, ih, expand_of_no_call (called?_of_silent hline)]
      cases table.expand rest with
      | error error => rfl
      | ok lines => exact congrArg Except.ok (statements_cons_of_silent hline lines).symm
    | true =>
      rw [statements_cons_of_significant hline]
      cases hcall : called? line with
      | none =>
        rw [expand_of_no_call hcall, expand_of_no_call ((called?_trim line).trans hcall)]
        refine map_statements_front (fun h => ?_) ih
        rw [statements_cons_of_significant hline, statements_cons_of_significant (by rwa [trim_trim]), trim_trim, h]
      | some name =>
        have htrim := (called?_trim line).trans hcall
        cases hbody : table.lookup? name with
        | none =>
          rw [expand, expand, htrim, hcall]
          dsimp only
          rw [hbody]
          rfl
        | some body =>
          -- both calls are replaced by the same lines, whose blanks are those of the file of macros
          rw [expand_of_call hcall hbody, expand_of_call htrim hbody]
          refine map_statements_front (fun h => ?_) ih
          rw [statements_append, statements_append, h]

end MacroTable

/-! ## Compilation -/

variable {stream : DigitStream} {maxRepeats : Int}

theorem Draft.readLine_trim (draft : Draft) (line raw : Text) :
    draft.readLine maxRepeats line raw.trim =
      (draft.readLine maxRepeats line raw).mapError ScriptError.trimmed := by
  have hstep : draft.readStepLine maxRepeats line raw.trim =
      (draft.readStepLine maxRepeats line raw).mapError ScriptError.trimmed := by
    rw [readStepLine, readStepLine]
    cases Line.read line <;> cases draft.opened <;> rfl
  rw [readLine, readLine]
  split
  · exact hstep
  · cases Command.ofLine line with
    | other => exact hstep
    | _ => rfl

namespace Compilation

theorem outcome_statements (draft : Draft) (drawn : Nat) (lines : List Text) :
    (scan stream maxRepeats draft drawn (statements lines)).outcome =
      (scan stream maxRepeats draft drawn lines).outcome.mapError ScriptError.trimmed := by
  induction lines generalizing draft drawn with
  | nil => rfl
  | cons raw rest ih =>
    cases hraw : raw.trim.isSignificant with
    | false =>
      rw [statements_cons_of_silent hraw, ih, scan, hraw]
      rfl
    | true =>
      rw [statements_cons_of_significant hraw, scan, scan, trim_trim, hraw]
      simp only [Bool.not_true, Bool.false_eq_true, if_false]
      rcases Placeholder.substitute stream drawn raw.trim with ⟨_ | text, total⟩
      · rfl
      · dsimp only
        rw [Draft.readLine_trim]
        cases draft.readLine maxRepeats text raw with
        | error error => rfl
        | ok next => exact ih next total

/-- A script has the tasks of its statements. -/
theorem result_statements (drawn : Nat) (lines : List Text) :
    (ofLines stream drawn maxRepeats (statements lines)).result =
      (ofLines stream drawn maxRepeats lines).result.mapError ScriptError.trimmed := by
  rw [ofLines, ofLines, result_finish, result_finish, outcome_statements]
  cases (scan stream maxRepeats {} drawn lines).outcome with
  | error error => rfl
  | ok draft =>
    change draft.finish = draft.finish.mapError ScriptError.trimmed
    rw [Draft.finish]
    split <;> rfl

end Compilation

end ScreenScript
