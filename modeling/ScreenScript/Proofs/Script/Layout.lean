import Mathlib.Logic.Relation
import ScreenScript.Proofs.Script.Source
import ScreenScript.Proofs.Script.Statement

/-!
# Layout

The layout of a script and of its macros is free. Blank lines and comments may stand anywhere, blanks may stand
at both ends of every line, and lines may end with `\n`, `\r` or `\r\n`: the same comes of the files.

* `Text.Edit` — one change of the layout of a text
* `Text.LineEnd` — the conventions for the end of a line
* `Text.Relaid` — texts that differ in their layout only
* `Source.layout_is_free` — what comes of files whose texts differ in their layout only
-/

namespace ScreenScript

namespace Text

variable {c b : Char} {t t' u before after line : Text}

/-! ## Lines -/

theorem ne_return_of_not_break (h : isLineBreak c = false) : c ≠ '\r' := by
  rintro rfl
  exact absurd h (by decide)

/-- The lines of a text whose first character is no carriage return. -/
theorem lines_cons (hc : c ≠ '\r') (t : Text) :
    lines (c :: t) =
      if isLineBreak c then [] :: lines t else (c :: (lines t).headD []) :: (lines t).tail := by
  rw [lines]
  · cases lines t <;> rfl
  · exact fun _ h _ => hc h

theorem lines_ne_nil (ht : t ≠ []) (hreturn : '\r' ∉ t) : lines t ≠ [] := by
  obtain ⟨c, rest, rfl⟩ := List.exists_cons_of_ne_nil ht
  rw [lines_cons (List.ne_of_not_mem_cons hreturn).symm]
  split <;> exact List.cons_ne_nil _ _

/-- A line, and then others. -/
theorem lines_line (hline : ∀ c ∈ line, isLineBreak c = false) (hb : isLineBreak b = true) (hreturn : b ≠ '\r')
    (after : Text) : lines (line ++ b :: after) = line :: lines after := by
  induction line with
  | nil => rw [List.nil_append, lines_cons hreturn, if_pos hb]
  | cons c rest ih =>
    obtain ⟨hc, hrest⟩ := List.forall_mem_cons.1 hline
    rw [List.cons_append, lines_cons (ne_return_of_not_break hc), ih hrest]
    simp [hc]

/-- A last line that nothing ends. -/
theorem lines_unbroken (h : ∀ c ∈ line, isLineBreak c = false) :
    lines line = if line = [] then [] else [line] := by
  induction line with
  | nil => rfl
  | cons c rest ih =>
    obtain ⟨hc, hrest⟩ := List.forall_mem_cons.1 h
    rw [lines_cons (ne_return_of_not_break hc), ih hrest]
    by_cases hnil : rest = [] <;> simp [hc, hnil]

/-- A new line may begin behind the text: it is empty or ends with the end of a line. -/
def AtLineStart (before : Text) : Prop := ∀ c ∈ before.getLast?, isLineBreak c = true

/-- A line may end in front of the text: it is empty or begins with the end of a line. -/
def AtLineEnd (after : Text) : Prop := ∀ c ∈ after.head?, isLineBreak c = true

instance : DecidablePred AtLineStart := fun before =>
  decidable_of_iff (before.getLast?.all isLineBreak = true) (Option.all_eq_true _ _)

instance : DecidablePred AtLineEnd := fun after =>
  decidable_of_iff (after.head?.all isLineBreak = true) (Option.all_eq_true _ _)

theorem lines_append (hstart : AtLineStart before) (hreturn : '\r' ∉ before) (after : Text) :
    lines (before ++ after) = lines before ++ lines after := by
  induction before with
  | nil => rfl
  | cons c rest ih =>
    obtain ⟨hc, hrest⟩ := not_or.1 (mt List.mem_cons.2 hreturn)
    rw [List.cons_append, lines_cons (Ne.symm hc), lines_cons (Ne.symm hc)]
    by_cases hnil : rest = []
    · have hbreak : isLineBreak c = true := hstart c (by simp [hnil])
      simp [hbreak, hnil, lines]
    · have hrests : AtLineStart rest := fun d hd => hstart d (by rwa [List.getLast?_cons_of_ne_nil hnil])
      obtain ⟨first, others, hlines⟩ := List.exists_cons_of_ne_nil (lines_ne_nil hnil hrest)
      rw [ih hrests hrest, hlines]
      split <;> rfl

/-! ## Statements of a text -/

theorem statements_eq_head_tail (lines : List Text) :
    statements lines = statements [lines.headD []] ++ statements lines.tail := by
  cases lines with
  | nil => rfl
  | cons line rest => exact statements_append [line] rest

theorem statements_singleton_congr (h : t.trim = t'.trim) : statements [t] = statements [t'] := by
  rw [statements, statements, List.map_singleton, List.map_singleton, h]

/-- The first lines of the texts differ at most in the blanks at their ends, and the same statements follow. -/
def EndsAlike (t t' : Text) : Prop :=
  trimEnd ((lines t).headD []) = trimEnd ((lines t').headD []) ∧
    statements (lines t).tail = statements (lines t').tail

theorem EndsAlike.statements_eq (h : EndsAlike t t') : statements t.lines = statements t'.lines := by
  obtain ⟨hfirst, hrest⟩ := h
  have htrim : ((lines t).headD []).trim = ((lines t').headD []).trim := by
    rw [← trim_trimEnd, hfirst, trim_trimEnd]
  rw [statements_eq_head_tail, hrest, statements_eq_head_tail (lines t'), statements_singleton_congr htrim]

theorem EndsAlike.cons (h : EndsAlike t t') (hc : c ≠ '\r') : EndsAlike (c :: t) (c :: t') := by
  rw [EndsAlike, lines_cons hc, lines_cons hc]
  by_cases hbreak : isLineBreak c = true
  · rw [if_pos hbreak, if_pos hbreak]
    exact ⟨rfl, h.statements_eq⟩
  · rw [if_neg hbreak, if_neg hbreak]
    refine ⟨?_, h.2⟩
    rw [List.headD_cons, List.headD_cons, trimEnd_cons, h.1, ← trimEnd_cons]

theorem EndsAlike.append (h : EndsAlike t t') (hreturn : '\r' ∉ before) :
    EndsAlike (before ++ t) (before ++ t') := by
  induction before with
  | nil => exact h
  | cons c rest ih =>
    obtain ⟨hc, hrest⟩ := not_or.1 (mt List.mem_cons.2 hreturn)
    exact (ih hrest).cons (Ne.symm hc)

/-- A blank at the end of a line. -/
theorem endsAlike_pad (hblank : isBlank c = true) (hc : isLineBreak c = false) (hend : AtLineEnd after)
    (hreturn : '\r' ∉ after) : EndsAlike after (c :: after) := by
  cases after with
  | nil => simp [EndsAlike, lines, hc, hblank, trimEnd]
  | cons b rest =>
    have hb : isLineBreak b = true := hend b rfl
    have hne : b ≠ '\r' := (List.ne_of_not_mem_cons hreturn).symm
    rw [EndsAlike, lines_cons (ne_return_of_not_break hc), lines_cons hne]
    simp [hb, hc, hblank, trimEnd]

/-! ## Changes of the layout -/

/-- The text is a line that says nothing: it is blank, or its first character that is no blank begins a
comment. -/
structure IsSilentLine (line : Text) : Prop where
  unbroken : ∀ c ∈ line, isLineBreak c = false
  silent : Blank line ∨ ∃ front rest, Blank front ∧ line = front ++ '#' :: rest

/-- A comment without a blank in front of it. -/
theorem isSilentLine_comment (h : line.any isLineBreak = false) : IsSilentLine ('#' :: line) where
  unbroken := List.forall_mem_cons.2 ⟨by decide, by simpa using h⟩
  silent := .inr ⟨[], line, nofun, rfl⟩

theorem IsSilentLine.isSignificant (h : IsSilentLine line) : line.trim.isSignificant = false := by
  rcases h.silent with hblank | ⟨front, rest, hfront, rfl⟩
  · rw [trim_eq_nil hblank]
    rfl
  · have hpad : trim (front ++ '#' :: rest) = trim ('#' :: rest) := by
      simpa using trim_pad (t := '#' :: rest) hfront (fun _ h => absurd h List.not_mem_nil)
    rw [hpad, trim_cons_of_not_blank (by decide)]
    obtain ⟨back, hback, ht⟩ := exists_back ('#' :: rest)
    cases hend : trimEnd ('#' :: rest) with
    | nil =>
      rw [hend, List.nil_append] at ht
      exact absurd (hback '#' (ht ▸ List.mem_cons_self)) (by decide)
    | cons c others =>
      rw [hend, List.cons_append] at ht
      obtain ⟨rfl, -⟩ := List.cons.inj ht
      rfl

theorem IsSilentLine.statements_eq (h : IsSilentLine line) : statements [line] = [] :=
  statements_cons_of_silent h.isSignificant []

/-- Changes of the layout of a text, one at a time. A line is what `lines` cuts a text into. -/
inductive Edit : Text → Text → Prop
  /-- a blank line or a comment is put in front of a line or behind the last one -/
  | insert {before line : Text} {b : Char} (after : Text) : AtLineStart before → IsSilentLine line →
    isLineBreak b = true → b ≠ '\r' → Edit (before ++ after) (before ++ (line ++ b :: after))
  /-- it is put behind a last line that nothing ends -/
  | append {line : Text} {b : Char} (before : Text) : IsSilentLine line → isLineBreak b = true → b ≠ '\r' →
    Edit before (before ++ b :: line)
  /-- a blank is put in front of a line -/
  | indent {before : Text} {c : Char} (after : Text) : AtLineStart before → isBlank c = true →
    isLineBreak c = false → Edit (before ++ after) (before ++ c :: after)
  /-- a blank is put behind a line -/
  | extend {after : Text} {c : Char} (before : Text) : AtLineEnd after → isBlank c = true →
    isLineBreak c = false → Edit (before ++ after) (before ++ c :: after)

theorem Edit.return_mem_iff (h : Edit t u) : '\r' ∈ t ↔ '\r' ∈ u := by
  have hbreaks {line : Text} (hline : IsSilentLine line) : '\r' ∉ line := fun hmem =>
    ne_return_of_not_break (hline.unbroken _ hmem) rfl
  cases h with
  | insert after _ hline _ hne => simp [hbreaks hline, Ne.symm hne]
  | append before hline _ hne => simp [hbreaks hline, Ne.symm hne]
  | indent after _ _ hc => simp [(ne_return_of_not_break hc).symm]
  | extend before _ _ hc => simp [(ne_return_of_not_break hc).symm]

/-- A change of the layout leaves the statements alone. -/
theorem Edit.statements_eq (h : Edit t u) (hreturn : '\r' ∉ t) : statements t.lines = statements u.lines := by
  cases h with
  | @insert before line b after hstart hline hb hne =>
    have hbefore : '\r' ∉ before := fun hmem => hreturn (List.mem_append_left _ hmem)
    rw [lines_append hstart hbefore, lines_append hstart hbefore, lines_line hline.unbroken hb hne,
      statements_append, statements_append, statements_cons_of_silent hline.isSignificant]
  | @append line b _ hline hb hne =>
    have hlines : statements (lines line) = [] := by
      rw [lines_unbroken hline.unbroken]
      split
      · rfl
      · exact hline.statements_eq
    have hends : EndsAlike [] (b :: line) := by
      simp [EndsAlike, lines_cons hne, hb, lines, hlines]
      rfl
    simpa using (hends.append hreturn).statements_eq
  | @indent before c after hstart hblank hc =>
    have hbefore : '\r' ∉ before := fun hmem => hreturn (List.mem_append_left _ hmem)
    have hafter : statements (lines (c :: after)) = statements after.lines := by
      have hfirst := statements_singleton_congr (trim_cons_of_blank hblank (after.lines.headD []))
      rw [lines_cons (ne_return_of_not_break hc), hc, if_neg Bool.false_ne_true, statements_eq_head_tail,
        List.headD_cons, List.tail_cons, hfirst, ← statements_eq_head_tail]
    rw [lines_append hstart hbefore, lines_append hstart hbefore, statements_append, statements_append, hafter]
  | @extend after c before hend hblank hc =>
    -- the blank is not at the beginning of a line, so the line in front of it has to be compared as well
    obtain ⟨hbefore, hafter⟩ := not_or.1 (mt List.mem_append.2 hreturn)
    exact ((endsAlike_pad hblank hc hend hafter).append hbefore).statements_eq

/-- However often the layout is changed, forth or back, the statements stay the same. -/
theorem statements_eq_of_edits (h : Relation.EqvGen Edit t u) :
    ('\r' ∈ t ↔ '\r' ∈ u) ∧ ('\r' ∉ t → statements t.lines = statements u.lines) := by
  induction h with
  | rel t u hedit => exact ⟨hedit.return_mem_iff, hedit.statements_eq⟩
  | refl t => exact ⟨.rfl, fun _ => rfl⟩
  | symm t u _ ih => exact ⟨ih.1.symm, fun hu => (ih.2 (mt ih.1.1 hu)).symm⟩
  | trans t between u _ _ ih ih' =>
    exact ⟨ih.1.trans ih'.1, fun ht => (ih.2 ht).trans (ih'.2 (mt ih.1.2 ht))⟩

/-! ## Ends of lines -/

/-- What the lines of a file end with. -/
inductive LineEnd
  /-- a line feed -/
  | feed
  /-- a carriage return -/
  | return
  /-- a carriage return and a line feed -/
  | returnFeed
  deriving DecidableEq, Repr

namespace LineEnd

/-- The characters that end a line. -/
def mark : LineEnd → Text
  | feed => ['\n']
  | .return => ['\r']
  | returnFeed => ['\r', '\n']

/-- The text with all line feeds replaced. -/
def write (lineEnd : LineEnd) (t : Text) : Text := t.flatMap fun c => if c = '\n' then lineEnd.mark else [c]

theorem write_cons (lineEnd : LineEnd) (c : Char) (t : Text) :
    lineEnd.write (c :: t) = (if c = '\n' then lineEnd.mark else [c]) ++ lineEnd.write t := rfl

end LineEnd

theorem unifyNewlines_cons (hc : c ≠ '\r') (t : Text) : unifyNewlines (c :: t) = c :: unifyNewlines t := by
  rw [unifyNewlines, if_neg hc]
  exact fun _ h _ => hc h

theorem unifyNewlines_return (ht : t.head? ≠ some '\n') : unifyNewlines ('\r' :: t) = '\n' :: unifyNewlines t := by
  rw [unifyNewlines]
  · rfl
  · rintro rest - rfl
    exact ht rfl

/-- Whatever the lines of a text end with, it is read as it was. -/
theorem unifyNewlines_write (lineEnd : LineEnd) (h : '\r' ∉ t) : unifyNewlines (lineEnd.write t) = t := by
  induction t with
  | nil => rfl
  | cons c rest ih =>
    obtain ⟨hc, hrest⟩ := not_or.1 (mt List.mem_cons.2 h)
    rw [LineEnd.write_cons]
    by_cases hfeed : c = '\n'
    · rw [if_pos hfeed, hfeed]
      cases lineEnd with
      | feed => exact (unifyNewlines_cons (by decide) _).trans (congrArg _ (ih hrest))
      | «return» =>
        -- no line feed is left that could belong to this carriage return
        have hhead : (LineEnd.return.write rest).head? ≠ some '\n' := by
          intro hhead
          obtain ⟨d, -, hd⟩ := List.mem_flatMap.1 (List.mem_of_mem_head? hhead)
          split at hd
          · exact absurd hd (by decide)
          · next hne => exact hne (List.mem_singleton.1 hd).symm
        exact (unifyNewlines_return hhead).trans (congrArg _ (ih hrest))
      | returnFeed => exact congrArg _ (ih hrest)
    · rw [if_neg hfeed]
      exact (unifyNewlines_cons (Ne.symm hc) _).trans (congrArg _ (ih hrest))

/-- The texts differ in their layout only: as to blank lines, comments, blanks at the ends of lines, and what lines
end with. -/
def Relaid (t t' : Text) : Prop :=
  ∃ u u' lineEnd lineEnd', '\r' ∉ u ∧ Relation.EqvGen Edit u u' ∧ t = LineEnd.write lineEnd u ∧
    t' = LineEnd.write lineEnd' u'

theorem Relaid.statements_eq (h : Relaid t t') :
    statements t.unifyNewlines.lines = statements t'.unifyNewlines.lines := by
  obtain ⟨u, u', lineEnd, lineEnd', hreturn, hedits, rfl, rfl⟩ := h
  obtain ⟨hiff, hstatements⟩ := statements_eq_of_edits hedits
  rw [unifyNewlines_write lineEnd hreturn, unifyNewlines_write lineEnd' (mt hiff.2 hreturn)]
  exact hstatements hreturn

end Text

/-! ## Files -/

namespace Disk

variable {disk : Disk} {path : Path} {t : Text}

/-- The path leads to a file that holds the text. -/
def HoldsText (disk : Disk) (path : Path) (t : Text) : Prop :=
  ∃ content, disk.read path = .ok content ∧ Utf8.decode? content.toOctets = some t

theorem HoldsText.result_readText (h : disk.HoldsText path t) :
    (readText path disk).result = .ok t.unifyNewlines := by
  obtain ⟨content, hread, hdecode⟩ := h
  have htext : textOf? content = some t.unifyNewlines := by rw [textOf?, hdecode, Option.map_some]
  rw [Workspace.result_readText, hread]
  exact Workspace.textResult_eq_ok.2 htext

end Disk

namespace Source

open Text

variable {stream : DigitStream} {maxRepeats : Int} {table table' : Except ScriptError MacroTable}
  {lines lines' : List Text} {script path : Path} {macros : Option Path} {disk disk' : Disk} {t t' : Text}

/-! ## What comes of lines -/

/-- What comes of the lines of a script, given what comes of its macros. -/
def compiled (stream : DigitStream) (maxRepeats : Int) (table : Except ScriptError MacroTable)
    (lines : List Text) : Except ScriptError (List Task) :=
  table.bind fun table => (table.expand lines).bind fun expanded =>
    (Compilation.ofLines stream 0 maxRepeats expanded).result

/-- The results are the same, up to the blanks around the line that shows an error. -/
def SameUpToBlanks {α : Type} (r r' : Except ScriptError α) : Prop :=
  r.mapError ScriptError.trimmed = r'.mapError ScriptError.trimmed

theorem sameUpToBlanks_ofLines (h : statements lines = statements lines') :
    SameUpToBlanks (MacroTable.ofLines lines) (MacroTable.ofLines lines') := by
  rw [SameUpToBlanks, ← MacroTable.ofLines_statements, ← MacroTable.ofLines_statements, h]

theorem sameUpToBlanks_expand (table : MacroTable) (h : statements lines = statements lines') :
    SameUpToBlanks ((table.expand lines).map statements) ((table.expand lines').map statements) := by
  rw [SameUpToBlanks, ← MacroTable.expand_statements, ← MacroTable.expand_statements, h]

theorem sameUpToBlanks_result (h : statements lines = statements lines') :
    SameUpToBlanks (Compilation.ofLines stream 0 maxRepeats lines).result
      (Compilation.ofLines stream 0 maxRepeats lines').result := by
  rw [SameUpToBlanks, ← Compilation.result_statements, ← Compilation.result_statements, h]

/-- The same comes of scripts with the same statements. -/
theorem sameUpToBlanks_compiled (htable : SameUpToBlanks table table')
    (hlines : statements lines = statements lines') :
    SameUpToBlanks (compiled stream maxRepeats table lines) (compiled stream maxRepeats table' lines') := by
  cases table with
  | error error =>
    cases table' with
    | error error' => exact congrArg Except.error (Except.error.inj htable)
    | ok table' => cases htable
  | ok table =>
    cases table' with
    | error error' => cases htable
    | ok table' =>
      obtain rfl := Except.ok.inj htable
      have hexpand := sameUpToBlanks_expand table hlines
      change SameUpToBlanks ((table.expand lines).bind _) ((table.expand lines').bind _)
      cases hleft : table.expand lines <;> cases hright : table.expand lines' <;> rw [hleft, hright] at hexpand
      case error.error => exact congrArg Except.error (Except.error.inj hexpand)
      case error.ok => cases hexpand
      case ok.error => cases hexpand
      case ok.ok => exact sameUpToBlanks_result (Except.ok.inj hexpand)

/-! ## What comes of files -/

theorem result_readLines (h : (Disk.readText path disk).result = .ok t) :
    (readLines path disk).result = .ok t.lines := by
  rw [readLines, (Disk.silent_readText path).result_bind_of_ok h]
  rfl

theorem result_loadMacros_of_text (h : (Disk.readText path disk).result = .ok t) :
    (loadMacros path disk).result = (MacroTable.ofLines t.lines).mapError .script := by
  rw [loadMacros, (Disk.silent_checkExists path).result_bind_of_ok (Disk.result_checkExists_of_readText h),
    if_pos rfl, (silent_readLines path).result_bind_of_ok (result_readLines h), orFail,
    Routine.silent_ofExcept.result_bind, Routine.result_ofExcept]
  cases MacroTable.ofLines t.lines <;> rfl

theorem result_loadMacros_of_missing (h : disk.exists? path = .ok false) :
    (loadMacros path disk).result = .ok [] := by
  have hexists : (Disk.checkExists path disk).result = .ok false := by
    rw [Disk.result_checkExists, h]
    rfl
  rw [loadMacros, (Disk.silent_checkExists path).result_bind_of_ok hexists]
  rfl

/-- What comes of the macros that a script may call. -/
def macrosResult (macros : Option Path) (disk : Disk) : Except Fault MacroTable :=
  match macros with
  | some path => (loadMacros path disk).result
  | none => .ok []

theorem result_compileLines (lines : List Text) (disk : Disk) :
    (compileLines stream maxRepeats lines disk).result =
      (Compilation.ofLines stream 0 maxRepeats lines).result.mapError .script := by
  rw [compileLines, (silent_sayIgnored _).result_bind_of_ok (result_sayIgnored _ disk)]
  exact Routine.result_ofExcept .script _ disk

/-- What is done behind the macros. -/
theorem result_compiling {m : Routine Disk MacroTable} (hsilent : m.Silent)
    (hm : (m disk).result = table.mapError .script) :
    ((do
      let table ← m
      let tasks ← compileLines stream maxRepeats (← orFail (table.expand lines))
      Routine.say .info ("脚本编译完成，共 ".toList ++ Text.ofNat tasks.length ++ " 个任务".toList)
      return tasks : Routine Disk (List Task)) disk).result =
      (compiled stream maxRepeats table lines).mapError .script := by
  rw [hsilent.result_bind, hm, compiled]
  cases table with
  | error error => rfl
  | ok table =>
    dsimp only [Except.bind, Except.mapError]
    rw [orFail, Routine.silent_ofExcept.result_bind, Routine.result_ofExcept]
    cases table.expand lines with
    | error error => rfl
    | ok expanded =>
      dsimp only [Except.bind, Except.mapError]
      rw [(silent_compileLines expanded).result_bind, result_compileLines]
      cases (Compilation.ofLines stream 0 maxRepeats expanded).result <;> rfl

theorem result_compileFile (hscript : (Disk.readText script disk).result = .ok t)
    (hmacros : macrosResult macros disk = table.mapError .script) :
    (compileFile stream script macros maxRepeats disk).result =
      (compiled stream maxRepeats table t.lines).mapError .script := by
  rw [compileFile,
    (Disk.silent_checkExists script).result_bind_of_ok (Disk.result_checkExists_of_readText hscript),
    if_pos rfl, Routine.silent_say.result_bind_of_ok rfl,
    (silent_readLines script).result_bind_of_ok (result_readLines hscript)]
  cases macros with
  | none => exact result_compiling Routine.silent_pure hmacros
  | some path => exact result_compiling (silent_loadMacros path) hmacros

/-! ## Files that differ in their layout -/

/-- On both disks the path leads to a file, and the texts of the two differ in their layout only. -/
def RelaidAt (path : Path) (disk disk' : Disk) : Prop :=
  ∃ t t', Relaid t t' ∧ disk.HoldsText path t ∧ disk'.HoldsText path t'

/-- The same comes of two scripts: the same tasks, or the same fault, whose message is the same. The lines that show
it differ at most in the blanks at their ends. -/
inductive Alike : Except Fault (List Task) → Except Fault (List Task) → Prop
  | tasks (tasks : List Task) : Alike (.ok tasks) (.ok tasks)
  | malformed (fault : ScriptFault) {line line' : Text} : line.trim = line'.trim →
    Alike (.error (.script (.malformed fault line))) (.error (.script (.malformed fault line')))
  | oversize : Alike (.error (.script .oversizePlaceholder)) (.error (.script .oversizePlaceholder))

theorem alike_of_sameUpToBlanks {r r' : Except ScriptError (List Task)} (h : SameUpToBlanks r r') :
    Alike (r.mapError .script) (r'.mapError .script) := by
  cases r with
  | ok tasks =>
    cases r' with
    | ok tasks' =>
      obtain rfl := Except.ok.inj h
      exact .tasks tasks
    | error error' => cases h
  | error error =>
    cases r' with
    | ok tasks' => cases h
    | error error' =>
      have h := Except.error.inj h
      cases error with
      | malformed fault line =>
        cases error' with
        | malformed fault' line' =>
          obtain ⟨rfl, hline⟩ := ScriptError.malformed.inj h
          exact .malformed fault hline
        | oversizePlaceholder => cases h
      | oversizePlaceholder =>
        cases error' with
        | malformed fault' line' => cases h
        | oversizePlaceholder => exact .oversize

theorem RelaidAt.tables (h : RelaidAt path disk disk') :
    ∃ table table', SameUpToBlanks table table' ∧ macrosResult (some path) disk = table.mapError .script ∧
      macrosResult (some path) disk' = table'.mapError .script := by
  obtain ⟨t, t', hrelaid, ht, ht'⟩ := h
  exact ⟨_, _, sameUpToBlanks_ofLines hrelaid.statements_eq, result_loadMacros_of_text ht.result_readText,
    result_loadMacros_of_text ht'.result_readText⟩

/-- **The layout is free.** If the texts of two scripts differ in their layout only, and so do those of their macros,
unless there are none, the same comes of compiling them. -/
theorem layout_is_free (stream : DigitStream) (maxRepeats : Int) {script : Path} {macros : Option Path}
    {disk disk' : Disk} (hscript : RelaidAt script disk disk')
    (hmacros : ∀ path ∈ macros, RelaidAt path disk disk' ∨
      disk.exists? path = .ok false ∧ disk'.exists? path = .ok false) :
    Alike (compileFile stream script macros maxRepeats disk).result
      (compileFile stream script macros maxRepeats disk').result := by
  have htables : ∃ table table', SameUpToBlanks table table' ∧
      macrosResult macros disk = table.mapError .script ∧
      macrosResult macros disk' = table'.mapError .script := by
    cases macros with
    | none => exact ⟨.ok [], .ok [], rfl, rfl, rfl⟩
    | some path =>
      rcases hmacros path rfl with hrelaid | ⟨hmissing, hmissing'⟩
      · exact hrelaid.tables
      · exact ⟨.ok [], .ok [], rfl, result_loadMacros_of_missing hmissing,
          result_loadMacros_of_missing hmissing'⟩
  obtain ⟨table, table', htable, hmacros, hmacros'⟩ := htables
  obtain ⟨t, t', hrelaid, ht, ht'⟩ := hscript
  rw [result_compileFile ht.result_readText hmacros, result_compileFile ht'.result_readText hmacros']
  exact alike_of_sameUpToBlanks (sameUpToBlanks_compiled htable hrelaid.statements_eq)

/-- A disk with a script and macros. -/
def diskOf (script macros : String) : Disk where
  nodes := [(["script.txt".toList], .file (.octets (Utf8.encode script.toList))),
    (["macros.txt".toList], .file (.octets (Utf8.encode macros.toList)))]

/-- A script with a comment that would otherwise call a macro that is not defined, with blanks at the ends of lines
and with a blank line, and macros with a comment, the lines of which end with carriage returns. -/
theorem layout_is_free_of_commented :
    let disk := diskOf "m go\nwait 1" "macro go\nhome\nendMacro"
    let disk' := diskOf "# m x\nm go\t\n\n wait 1" "macro go\rhome\rendMacro\r#"
    let script : Path := .ofText "script.txt".toList
    let macros : Path := .ofText "macros.txt".toList
    RelaidAt script disk disk' ∧ RelaidAt macros disk disk' ∧
      Alike (compileFile (fun _ => 0) script (some macros) 10 disk).result
        (compileFile (fun _ => 0) script (some macros) 10 disk').result := by
  intro disk disk' script macros
  have hscript : RelaidAt script disk disk' := by
    refine ⟨"m go\nwait 1".toList, "# m x\nm go\t\n\n wait 1".toList, ⟨"m go\nwait 1".toList,
      "# m x\nm go\t\n\n wait 1".toList, .feed, .feed, by decide, ?_, rfl, rfl⟩,
      ⟨_, by rfl, by decide +kernel⟩, ⟨_, by rfl, by decide +kernel⟩⟩
    have hcomment : Edit "m go\nwait 1".toList "# m x\nm go\nwait 1".toList :=
      @Edit.insert [] ('#' :: " m x".toList) '\n' "m go\nwait 1".toList (by decide)
        (isSilentLine_comment (by decide)) (by decide) (by decide)
    have htab : Edit "# m x\nm go\nwait 1".toList "# m x\nm go\t\nwait 1".toList :=
      @Edit.extend "\nwait 1".toList '\t' "# m x\nm go".toList (by decide) (by decide) (by decide)
    have hblank : Edit "# m x\nm go\t\nwait 1".toList "# m x\nm go\t\n\nwait 1".toList :=
      @Edit.insert "# m x\nm go\t\n".toList [] '\n' "wait 1".toList (by decide) ⟨nofun, .inl nofun⟩
        (by decide) (by decide)
    have hspace : Edit "# m x\nm go\t\n\nwait 1".toList "# m x\nm go\t\n\n wait 1".toList :=
      @Edit.indent "# m x\nm go\t\n\n".toList ' ' "wait 1".toList (by decide) (by decide) (by decide)
    exact (Relation.EqvGen.rel _ _ hcomment).trans _ _ _ ((Relation.EqvGen.rel _ _ htab).trans _ _ _
      ((Relation.EqvGen.rel _ _ hblank).trans _ _ _ (.rel _ _ hspace)))
  have hmacros : RelaidAt macros disk disk' := by
    have hcomment : Edit "macro go\nhome\nendMacro".toList "macro go\nhome\nendMacro\n#".toList :=
      @Edit.append ['#'] '\n' "macro go\nhome\nendMacro".toList (isSilentLine_comment (by decide))
        (by decide) (by decide)
    exact ⟨"macro go\nhome\nendMacro".toList, "macro go\rhome\rendMacro\r#".toList,
      ⟨"macro go\nhome\nendMacro".toList, "macro go\nhome\nendMacro\n#".toList, .feed, .return,
        by decide, .rel _ _ hcomment, rfl, rfl⟩,
      ⟨_, by rfl, by decide +kernel⟩, ⟨_, by rfl, by decide +kernel⟩⟩
  refine ⟨hscript, hmacros, layout_is_free _ _ hscript fun path hpath => .inl ?_⟩
  rwa [← Option.some.inj hpath]

end Source

end ScreenScript
