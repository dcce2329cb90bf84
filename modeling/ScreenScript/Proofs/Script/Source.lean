import ScreenScript.Proofs.Config.Workspace
import ScreenScript.Script.Source

/-!
# What comes of script files

Compiling a script depends on the contents of two files, the script and its macros, and leaves both alone.
What is wrong with macros and with their calls is always the structure of the lines.

* `Source.macrosVerdict`, `Source.verdict` — what compiling comes to
* `Source.brings_compileFile` — it comes to just that
* `Source.silent_compileFile`, `Source.result_compileFile_iff` — no file is changed, and when there are tasks
* `Source.malformed_of_ofLines`, `Source.malformed_of_expand` — what is wrong with macros
-/

namespace ScreenScript

namespace Source

open Workspace

/-- What loading macros comes to, given the content of their file. -/
def macrosVerdict (path : Path) : Option Content → Except Fault MacroTable
  | none => .ok []
  | some content => do
    let text ← textResult path content
    (MacroTable.ofLines text.lines).mapError .script

/-- What compiling comes to, given the contents of the files. -/
def verdict (digits : DigitStream) (maxRepeats : Int) (script macros : Path) (content : Content)
    (macrosContent : Option Content) : Except Fault (List Task) := do
  let text ← textResult script content
  let table ← macrosVerdict macros macrosContent
  let lines ← (table.expand text.lines).mapError .script
  (Compilation.ofLines digits 0 maxRepeats lines).result.mapError .script

/-! ## Compiling -/

variable {folder : Path} {root : Location} {stock : Stock} {digits : DigitStream} {maxRepeats : Int}
  {content : Content} {macrosContent : Option Content}

theorem brings_loadMacros (hmacros : stock .macros = macrosContent.map Node.file) :
    Brings folder root (loadMacros (Slot.macros.path folder)) stock
      (macrosVerdict (Slot.macros.path folder) macrosContent) stock := by
  have hreach : Reaches stock .macros := nofun
  have hexists := brings_checkExists folder root hreach
  rw [hmacros] at hexists
  cases macrosContent with
  | none => exact hexists.bind (brings_say.bind brings_pure)
  | some content =>
    refine hexists.bind ?_
    rw [if_pos (by rfl), readLines, Routine.bind_assoc]
    refine (brings_readText folder root hreach hmacros).bind_result fun text _ => ?_
    rw [Routine.pure_bind]
    exact brings_ofExcept.bind_same fun table => brings_say.bind brings_pure

theorem brings_sayIgnored (commands : List Text) :
    Brings folder root (sayIgnored commands) stock (.ok ()) stock := by
  induction commands with
  | nil => exact brings_pure
  | cons command rest ih => exact brings_say.bind ih

/-- Compiling comes to its verdict. -/
theorem brings_compileFile (hscript : stock .script = some (.file content))
    (hmacros : stock .macros = macrosContent.map Node.file) :
    Brings folder root
      (compileFile digits (Slot.script.path folder) (some (Slot.macros.path folder)) maxRepeats) stock
      (verdict digits maxRepeats (Slot.script.path folder) (Slot.macros.path folder) content
        macrosContent) stock := by
  have hreach : Reaches stock .script := nofun
  have hexists := brings_checkExists folder root hreach
  rw [hscript] at hexists
  refine hexists.bind ?_
  rw [if_pos (by rfl)]
  refine brings_say.bind ?_
  rw [readLines, Routine.bind_assoc]
  refine (brings_readText folder root hreach hscript).bind_result fun text _ => ?_
  rw [Routine.pure_bind]
  refine (brings_loadMacros hmacros).bind_result fun table _ => ?_
  refine brings_ofExcept.bind_result fun lines _ => ?_
  have hlines : Brings folder root (compileLines digits maxRepeats lines) stock
      ((Compilation.ofLines digits 0 maxRepeats lines).result.mapError .script) stock :=
    (brings_sayIgnored _).bind brings_ofExcept
  exact hlines.bind_same fun tasks => brings_say.bind brings_pure

/-! ## Silence -/

section

variable {script macros : Path} {disk : Disk} {tasks : List Task}

theorem silent_sayIgnored {σ : Type} (ignored : List Text) :
    (sayIgnored ignored : Routine σ Unit).Silent := by
  induction ignored with
  | nil => exact Routine.silent_pure
  | cons command rest ih => exact Routine.silent_bind Routine.silent_say fun _ => ih

theorem result_sayIgnored {σ : Type} (ignored : List Text) (s : σ) :
    ((sayIgnored ignored : Routine σ Unit) s).result = .ok () := by
  induction ignored with
  | nil => rfl
  | cons command rest ih => exact Routine.silent_say.result_bind_iff.2 ⟨(), rfl, ih⟩

theorem silent_readLines (path : Path) : (readLines path).Silent :=
  Routine.silent_bind (Disk.silent_readText path) fun _ => Routine.silent_pure

theorem silent_loadMacros (path : Path) : (loadMacros path).Silent := by
  refine Routine.silent_bind (Disk.silent_checkExists path) fun there => ?_
  cases there with
  | true =>
    refine Routine.silent_bind (silent_readLines path) fun lines => ?_
    refine Routine.silent_bind Routine.silent_ofExcept fun table => ?_
    exact Routine.silent_bind Routine.silent_say fun _ => Routine.silent_pure
  | false => exact Routine.silent_bind Routine.silent_say fun _ => Routine.silent_pure

theorem silent_compileLines {σ : Type} (lines : List Text) :
    (compileLines digits maxRepeats lines : Routine σ (List Task)).Silent :=
  Routine.silent_bind (silent_sayIgnored _) fun _ => Routine.silent_ofExcept

theorem silent_compileFile : (compileFile digits script (some macros) maxRepeats).Silent := by
  refine Routine.silent_bind (Disk.silent_checkExists script) fun there => ?_
  cases there with
  | true =>
    refine Routine.silent_bind Routine.silent_say fun _ => ?_
    refine Routine.silent_bind (silent_readLines script) fun lines => ?_
    refine Routine.silent_bind (silent_loadMacros macros) fun table => ?_
    refine Routine.silent_bind Routine.silent_ofExcept fun expanded => ?_
    refine Routine.silent_bind (silent_compileLines expanded) fun tasks => ?_
    exact Routine.silent_bind Routine.silent_say fun _ => Routine.silent_pure
  | false => exact Routine.silent_fail

theorem result_readLines_iff {path : Path} {lines : List Text} :
    (readLines path disk).result = .ok lines ↔
      ∃ text, (Disk.readText path disk).result = .ok text ∧ text.lines = lines := by
  rw [readLines, (Disk.silent_readText path).result_bind_iff]
  exact exists_congr fun text => and_congr_right fun _ => ⟨Except.ok.inj, congrArg Except.ok⟩

theorem result_compileLines_iff {σ : Type} {lines : List Text} {s : σ} :
    (compileLines digits maxRepeats lines s).result = .ok tasks ↔
      (Compilation.ofLines digits 0 maxRepeats lines).result = .ok tasks := by
  rw [compileLines, (silent_sayIgnored _).result_bind_iff]
  constructor
  · rintro ⟨u, -, h⟩
    exact Routine.result_ofExcept_iff.1 h
  · exact fun h => ⟨(), result_sayIgnored _ s, Routine.result_ofExcept_iff.2 h⟩

/-- A script file compiles if it and the macros can be read and what they expand to compiles. -/
theorem result_compileFile_iff :
    (compileFile digits script (some macros) maxRepeats disk).result = .ok tasks ↔
      ∃ text table lines, (Disk.readText script disk).result = .ok text ∧
        (loadMacros macros disk).result = .ok table ∧ table.expand text.lines = .ok lines ∧
        (Compilation.ofLines digits 0 maxRepeats lines).result = .ok tasks := by
  rw [compileFile, (Disk.silent_checkExists script).result_bind_iff]
  constructor
  · rintro ⟨there, -, h⟩
    cases there with
    | false => cases h
    | true =>
      obtain ⟨_, -, h⟩ := Routine.silent_say.result_bind_iff.1 h
      obtain ⟨_, hread, h⟩ := (silent_readLines script).result_bind_iff.1 h
      obtain ⟨table, htable, h⟩ := (silent_loadMacros macros).result_bind_iff.1 h
      obtain ⟨lines, hlines, h⟩ := Routine.silent_ofExcept.result_bind_iff.1 h
      obtain ⟨tasks', htasks, h⟩ := (silent_compileLines lines).result_bind_iff.1 h
      obtain ⟨_, -, h⟩ := Routine.silent_say.result_bind_iff.1 h
      obtain rfl := Except.ok.inj h
      obtain ⟨text, htext, rfl⟩ := result_readLines_iff.1 hread
      exact ⟨text, table, lines, htext, htable, Routine.result_ofExcept_iff.1 hlines,
        result_compileLines_iff.1 htasks⟩
  · rintro ⟨text, table, lines, htext, htable, hlines, htasks⟩
    refine ⟨true, Disk.result_checkExists_of_readText htext, ?_⟩
    refine Routine.silent_say.result_bind_iff.2 ⟨(), rfl, ?_⟩
    refine (silent_readLines script).result_bind_iff.2 ⟨_, result_readLines_iff.2 ⟨text, htext, rfl⟩, ?_⟩
    refine (silent_loadMacros macros).result_bind_iff.2 ⟨table, htable, ?_⟩
    refine Routine.silent_ofExcept.result_bind_iff.2 ⟨lines, Routine.result_ofExcept_iff.2 hlines, ?_⟩
    refine (silent_compileLines lines).result_bind_iff.2 ⟨tasks, result_compileLines_iff.2 htasks, ?_⟩
    exact Routine.silent_say.result_bind_iff.2 ⟨(), rfl, rfl⟩

end

/-! ## Failures -/

theorem malformed_of_readLine {progress : MacroTable.Progress} {line : Text} {error : ScriptError}
    (h : MacroTable.readLine progress line = .error error) : ∃ fault at_, error = .malformed fault at_ := by
  simp only [MacroTable.readLine] at h
  split at h
  · cases h
  · split at h
    · split at h
      · exact ⟨_, _, (Except.error.inj h).symm⟩
      · cases h
    · split at h
      · split at h
        · cases h
        · exact ⟨_, _, (Except.error.inj h).symm⟩
      · split at h <;> cases h

theorem malformed_of_readLines {progress : MacroTable.Progress} {lines : List Text} {error : ScriptError}
    (h : MacroTable.readLines progress lines = .error error) :
    ∃ fault line, error = .malformed fault line := by
  induction lines generalizing progress with
  | nil => cases h
  | cons line rest ih =>
    rw [MacroTable.readLines] at h
    cases hline : MacroTable.readLine progress line with
    | ok next =>
      rw [hline] at h
      exact ih h
    | error error' =>
      rw [hline] at h
      obtain rfl := Except.error.inj h
      exact malformed_of_readLine hline

/-- What is wrong with macros is their structure. -/
theorem malformed_of_ofLines {lines : List Text} {error : ScriptError}
    (h : MacroTable.ofLines lines = .error error) : ∃ fault line, error = .malformed fault line := by
  rw [MacroTable.ofLines] at h
  split at h
  · next hlines =>
    obtain rfl := Except.error.inj h
    exact malformed_of_readLines hlines
  · split at h
    · exact ⟨_, _, (Except.error.inj h).symm⟩
    · cases h

/-- What is wrong with a call of a macro is that there is no such macro. -/
theorem malformed_of_expand {table : MacroTable} {lines : List Text} {error : ScriptError}
    (h : table.expand lines = .error error) : ∃ fault line, error = .malformed fault line := by
  induction lines with
  | nil => cases h
  | cons line rest ih =>
    rw [MacroTable.expand] at h
    split at h
    · split at h
      · cases h
      · next hrest =>
        obtain rfl := Except.error.inj h
        exact ih hrest
    · split at h
      · exact ⟨_, _, (Except.error.inj h).symm⟩
      · split at h
        · cases h
        · next hrest =>
          obtain rfl := Except.error.inj h
          exact ih hrest

end Source

end ScreenScript
