import ScreenScript.Proofs.Script.Reading
import ScreenScript.Proofs.Script.Significant

/-!
# Which scripts compile

The lines that open and close steps are the fences of a script. Whether it compiles depends on them
alone: they have to alternate, beginning with an opening one and ending with a closing one. If they do
not, the first fence that is out of place is what the error is about, or the end of the script if a step
is still open there.

* `Fence.Alternates` — the fences of scripts that compile
* `Fence.Violation` — the message and the line of what is out of place first
* `Compilation.compiles_iff_alternates` — which of the two a script has decides what comes of it
-/

namespace ScreenScript

/-- A line on which the structure of a script, or of a file of macros, hangs. -/
inductive Fence
  /-- a step, or a macro, of this name opens on this line -/
  | opens (name raw : Text)
  /-- it closes on this line -/
  | closes (raw : Text)
  deriving DecidableEq, Repr

namespace Fence

/-- The fence that a line is, by its own text. -/
def ofLine? (line : SignificantLine) : Option Fence :=
  match Line.opening? line.text with
  | some (_, name) => some (opens name line.raw)
  | none => if line.text.lower = Line.closer then some (closes line.raw) else none

/-- The fences among some lines. -/
def all (lines : List SignificantLine) : List Fence := lines.filterMap ofLine?

/-- Opening and closing fences take turns, and the last one closes. -/
inductive Alternates : List Fence → Prop
  | nil : Alternates []
  | cons (name raw raw' : Text) {rest : List Fence} :
    Alternates rest → Alternates (opens name raw :: closes raw' :: rest)

/-- What is out of place first: the message about it, and the line that shows it. -/
inductive Violation : List Fence → Text → Text → Prop
  /-- a step opens although another one is open -/
  | unfinished {before : List Fence} (name raw name' raw' : Text) (after : List Fence) :
    Alternates before → Violation (before ++ opens name raw :: opens name' raw' :: after)
      ("Step '".toList ++ name ++ "' is missing 'end' before a new step begins.".toList) raw'
  /-- a step closes although none is open -/
  | stray {before : List Fence} (raw : Text) (after : List Fence) :
    Alternates before → Violation (before ++ closes raw :: after)
      "'end' found without a matching 'step'.".toList raw
  /-- the script ends although a step is open -/
  | unclosed {before : List Fence} (name raw : Text) :
    Alternates before → Violation (before ++ [opens name raw])
      ("Step '".toList ++ name ++ "' is missing 'end'.".toList) []

/-! ## Judging fences one after the other -/

/-- The judgement on some fences, given the name of the step that is open before them. -/
def judge : Option Text → List Fence → Except ScriptError Unit
  | none, [] => .ok ()
  | some name, [] => .error (.malformed (.unclosedStep name) [])
  | none, opens name _ :: rest => judge (some name) rest
  | some name, opens _ raw :: _ => .error (.malformed (.unfinishedStep name) raw)
  | none, closes raw :: _ => .error (.malformed .strayEnd raw)
  | some _, closes _ :: rest => judge none rest

/-- Fences that alternate leave no step open. -/
theorem Alternates.judge_append {before : List Fence} (h : Alternates before) (rest : List Fence) :
    judge none (before ++ rest) = judge none rest := by
  induction h with
  | nil => rfl
  | cons name raw raw' _ ih => exact ih

theorem Alternates.judge_eq_ok {fences : List Fence} (h : Alternates fences) :
    judge none fences = .ok () := by
  have := h.judge_append []
  rwa [List.append_nil] at this

/-- The judgement on fences that are out of place. -/
theorem Violation.judge_eq_error {fences : List Fence} {message line : Text}
    (h : Violation fences message line) :
    ∃ fault, judge none fences = .error (.malformed fault line) ∧ fault.message = message := by
  cases h with
  | unfinished name raw name' _ after hb => exact ⟨.unfinishedStep name, hb.judge_append _, rfl⟩
  | stray _ after hb => exact ⟨.strayEnd, hb.judge_append _, rfl⟩
  | unclosed name raw hb => exact ⟨.unclosedStep name, hb.judge_append _, rfl⟩

/-- A step that opens and closes in front changes nothing about what is out of place first. -/
theorem Violation.cons {rest : List Fence} {message line : Text} (h : Violation rest message line)
    (name raw raw' : Text) : Violation (opens name raw :: closes raw' :: rest) message line := by
  cases h with
  | unfinished name₁ raw₁ name₂ _ after hb =>
    exact .unfinished name₁ raw₁ name₂ line after (.cons name raw raw' hb)
  | stray _ after hb => exact .stray line after (.cons name raw raw' hb)
  | unclosed name₁ raw₁ hb => exact .unclosed name₁ raw₁ (.cons name raw raw' hb)

/-- Fences alternate, or something is out of place first. -/
theorem alternates_or_violation : ∀ fences : List Fence,
    Alternates fences ∨ ∃ message line, Violation fences message line
  | [] => .inl .nil
  | closes raw :: after => .inr ⟨_, _, .stray raw after .nil⟩
  | [opens name raw] => .inr ⟨_, _, .unclosed name raw .nil⟩
  | opens name raw :: opens name' raw' :: after =>
    .inr ⟨_, _, .unfinished name raw name' raw' after .nil⟩
  | opens name raw :: closes raw' :: rest => by
    rcases alternates_or_violation rest with h | ⟨message, line, h⟩
    · exact .inl (.cons name raw raw' h)
    · exact .inr ⟨message, line, h.cons name raw raw'⟩

/-- Fences are judged to be in order exactly if they alternate. -/
theorem judge_eq_ok_iff {fences : List Fence} : judge none fences = .ok () ↔ Alternates fences := by
  constructor
  · intro h
    rcases alternates_or_violation fences with ha | ⟨message, line, hv⟩
    · exact ha
    · obtain ⟨fault, hf, -⟩ := hv.judge_eq_error
      rw [h] at hf
      cases hf
  · exact Alternates.judge_eq_ok

/-- What is wrong with fences is what is out of place first. -/
theorem violation_of_judge {fences : List Fence} {error : ScriptError}
    (h : judge none fences = .error error) :
    ∃ fault line, error = .malformed fault line ∧ Violation fences fault.message line := by
  rcases alternates_or_violation fences with ha | ⟨message, line, hv⟩
  · rw [ha.judge_eq_ok] at h
    cases h
  · obtain ⟨fault, hf, rfl⟩ := hv.judge_eq_error
    rw [h] at hf
    exact ⟨fault, line, Except.error.inj hf, hv⟩

end Fence

/-! ## Reading and judging -/

namespace Draft

variable {maxRepeats : Int}

/-- The name of the open step. -/
def openName? (draft : Draft) : Option Text := draft.opened.map fun _ => draft.name

/-- Reading lines to the end of the script succeeds and fails like the judgement on their fences. -/
theorem judge_of_readAll (draft : Draft) (lines : List SignificantLine) :
    ((draft.readAll maxRepeats lines).bind finish).map (fun _ => ()) =
      Fence.judge draft.openName? (Fence.all lines) := by
  induction lines generalizing draft with
  | nil =>
    rw [openName?]
    cases h : draft.opened with
    | none => simp [readAll, Except.bind, finish, h, Except.map, Fence.all, Fence.judge]
    | some kind => simp [readAll, Except.bind, finish, h, Except.map, Fence.all, Fence.judge]
  | cons line rest ih =>
    rw [openName?, Fence.all, List.filterMap_cons, Fence.ofLine?]
    cases ho : Line.opening? line.text with
    | some step =>
      obtain ⟨kind, name⟩ := step
      cases hd : draft.opened with
      | none =>
        rw [readAll_cons_of_ok (readLine_of_opening ho hd), ih]
        rfl
      | some kind' =>
        rw [readAll_cons_of_error (readLine_of_opening_inside ho (by rw [hd]; rfl))]
        rfl
    | none =>
      by_cases hc : line.text.lower = Line.closer
      · simp only [if_pos hc]
        cases hd : draft.opened with
        | none =>
          rw [readAll_cons_of_error (readLine_of_closer_outside hc hd)]
          rfl
        | some kind =>
          rw [readAll_cons_of_ok (readLine_of_closer hc hd), ih]
          rfl
      · simp only [if_neg hc]
        cases hd : draft.opened with
        | none =>
          obtain ⟨next, hnext, hopened, -⟩ := readLine_of_inner_outside line.raw ho hc hd
          rw [readAll_cons_of_ok hnext, ih, openName?, hopened]
          rfl
        | some kind =>
          rw [readAll_cons_of_ok (readLine_of_inner_inside ho hc (by rw [hd]; rfl)), ih, openName?,
            opened_collect, name_collect, hd]
          rfl

end Draft

/-! ## Compiling and judging -/

namespace Compilation

variable {stream : DigitStream} {drawn : Nat} {maxRepeats : Int} {lines : List Text}
  {significant : List SignificantLine}

/-- A script compiles or not as its fences are judged. -/
theorem judge_of_result (maxRepeats : Int)
    (h : SignificantLine.all? stream drawn lines = some significant) :
    (ofLines stream drawn maxRepeats lines).result.map (fun _ => ()) =
      Fence.judge none (Fence.all significant) := by
  rw [result_ofLines h, Draft.judge_of_readAll]
  rfl

/-- A script whose placeholders are filled has no other error than one of its structure. -/
theorem malformed_of_result {error : ScriptError}
    (h : SignificantLine.all? stream drawn lines = some significant)
    (hr : (ofLines stream drawn maxRepeats lines).result = .error error) :
    ∃ fault line, error = .malformed fault line := by
  have hjudge := judge_of_result maxRepeats h
  rw [hr] at hjudge
  obtain ⟨fault, line, rfl, -⟩ := Fence.violation_of_judge hjudge.symm
  exact ⟨fault, line, rfl⟩

/-- **Which scripts compile.** If no placeholder of a script is too long, the script compiles exactly if
its fences alternate. If they do not, the error is the one about the fence that is out of place first,
with the line as it stands in the script, and there is no other error. -/
theorem compiles_iff_alternates (stream : DigitStream) (drawn : Nat) (maxRepeats : Int)
    (h : ∀ raw ∈ lines, raw.trim.isSignificant = true → Placeholder.Fits raw.trim) :
    ∃ significant, SignificantLine.all? stream drawn lines = some significant ∧
      ((∃ tasks, (ofLines stream drawn maxRepeats lines).result = .ok tasks) ↔
        Fence.Alternates (Fence.all significant)) ∧
      (∀ message line, (∃ fault, (ofLines stream drawn maxRepeats lines).result =
          .error (.malformed fault line) ∧ fault.message = message) ↔
        Fence.Violation (Fence.all significant) message line) ∧
      (ofLines stream drawn maxRepeats lines).result ≠ .error .oversizePlaceholder := by
  obtain ⟨significant, hs⟩ := SignificantLine.exists_all? stream drawn h
  have hjudge := judge_of_result maxRepeats hs
  refine ⟨significant, hs, ?_, ?_, ?_⟩
  · rw [← Fence.judge_eq_ok_iff, ← hjudge]
    constructor
    · rintro ⟨tasks, htasks⟩
      rw [htasks]
      rfl
    · intro hok
      cases hr : (ofLines stream drawn maxRepeats lines).result with
      | ok tasks => exact ⟨tasks, rfl⟩
      | error error =>
        rw [hr] at hok
        cases hok
  · intro message line
    constructor
    · rintro ⟨fault, hr, rfl⟩
      rw [hr] at hjudge
      obtain ⟨fault', line', heq, hv⟩ := Fence.violation_of_judge hjudge.symm
      obtain ⟨rfl, rfl⟩ := ScriptError.malformed.inj heq
      exact hv
    · intro hv
      obtain ⟨fault, hf, hmessage⟩ := hv.judge_eq_error
      refine ⟨fault, ?_, hmessage⟩
      rw [hf] at hjudge
      cases hr : (ofLines stream drawn maxRepeats lines).result with
      | ok tasks =>
        rw [hr] at hjudge
        cases hjudge
      | error error =>
        rw [hr] at hjudge
        rw [Except.error.inj hjudge]
  · intro hr
    rw [hr] at hjudge
    obtain ⟨fault, line, heq, -⟩ := Fence.violation_of_judge hjudge.symm
    cases heq

/-- A step that begins inside another one. -/
theorem compiles_iff_alternates_of_nested_steps :
    (∀ raw ∈ ["step A%randomNumber2%".toList, " STEP B".toList],
      Text.isSignificant (Text.trim raw) = true → Placeholder.Fits (Text.trim raw)) ∧
    ∃ significant,
      SignificantLine.all? (fun _ => 7) 0 ["step A%randomNumber2%".toList, " STEP B".toList] =
        some significant ∧
      ((∃ tasks, (ofLines (fun _ => 7) 0 10
          ["step A%randomNumber2%".toList, " STEP B".toList]).result = .ok tasks) ↔
        Fence.Alternates (Fence.all significant)) ∧
      (∀ message line, (∃ fault, (ofLines (fun _ => 7) 0 10
          ["step A%randomNumber2%".toList, " STEP B".toList]).result =
          .error (.malformed fault line) ∧ fault.message = message) ↔
        Fence.Violation (Fence.all significant) message line) ∧
      (ofLines (fun _ => 7) 0 10
        ["step A%randomNumber2%".toList, " STEP B".toList]).result ≠ .error .oversizePlaceholder := by
  have h : ∀ raw ∈ ["step A%randomNumber2%".toList, " STEP B".toList],
      Text.isSignificant (Text.trim raw) = true → Placeholder.Fits (Text.trim raw) := by
    decide +kernel
  exact ⟨h, compiles_iff_alternates (fun _ => 7) 0 10 h⟩

end Compilation

end ScreenScript
