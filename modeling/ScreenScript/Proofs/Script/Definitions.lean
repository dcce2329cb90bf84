import ScreenScript.Proofs.Script.Fence
import ScreenScript.Proofs.Text.Trimming

/-!
# Definitions of macros

A file of macros can be read if the lines that begin and end definitions take turns. What it defines are then
the blocks between them: a name stands for the lines of the last block with this name. These lines are such
that they can be written down as a file of macros again, and read back.

* `MacroTable.Mark` — what a line of such a file says
* `MacroTable.Misplaced` — the line that is out of place first, and the fault it shows
* `MacroTable.Defines` — the blocks of some lines
* `MacroTable.toLines` — a file that defines a table
* `MacroTable.definitions_are_blocks` — which files can be read, and what they define
-/

namespace ScreenScript

namespace MacroTable

variable {line name : Text} {lines body : List Text} {progress : Progress} {table : MacroTable}
  {fault : ScriptFault} {blocks : List (Text × List Text)}

/-! ## What the lines say -/

/-- What a line of a file of macros says. -/
inductive Mark
  /-- a definition of this name begins -/
  | opens (name : Text)
  /-- a definition ends -/
  | closes
  /-- any other text -/
  | inner (text : Text)
  deriving DecidableEq, Repr

namespace Mark

/-- What a line says, unless it is blank or a comment. -/
def ofLine? (line : Text) : Option Mark :=
  if line.trim = [] ∨ line.trim.head? = some '#' then none
  else if opener <+: line.trim then some (opens (Text.trim (line.trim.drop opener.length)))
  else if line.trim = closer then some closes
  else some (inner line.trim)

/-- A line that begins or ends a definition. -/
def fence? (line : Text) : Option Fence :=
  match ofLine? line with
  | some (opens name) => some (.opens name line)
  | some closes => some (.closes line)
  | _ => none

end Mark

/-- What the lines of a file say, one after the other. -/
def marks (lines : List Text) : List Mark := lines.filterMap Mark.ofLine?

/-- The lines that begin and end definitions. -/
def fences (lines : List Text) : List Fence := lines.filterMap Mark.fence?

theorem marks_cons (line : Text) (lines : List Text) :
    marks (line :: lines) = (Mark.ofLine? line).toList ++ marks lines := by
  rw [marks, List.filterMap_cons]
  cases Mark.ofLine? line <;> rfl

theorem isSignificant_eq_false_iff (t : Text) : t.isSignificant = false ↔ t = [] ∨ t.head? = some '#' := by
  cases t <;> simp [Text.isSignificant]

/-- Reading a line goes by what the line says. -/
theorem readLine_eq (progress : Progress) (line : Text) :
    readLine progress line =
      match Mark.ofLine? line, progress.opened with
      | none, _ => .ok progress
      | some (.opens _), some (name, _) => .error (.malformed (.nestedMacro name) line)
      | some (.opens name), none => .ok { progress with opened := some (name, []) }
      | some .closes, some (name, body) => .ok { table := progress.table.define name body.reverse }
      | some .closes, none => .error (.malformed .strayMacroEnd line)
      | some (.inner text), some (name, body) => .ok { progress with opened := some (name, text :: body) }
      | some (.inner _), none => .ok progress := by
  rw [readLine, Mark.ofLine?]
  by_cases hsilent : line.trim = [] ∨ line.trim.head? = some '#'
  · have hignored := (isSignificant_eq_false_iff _).2 hsilent
    simp [hsilent, hignored]
  · have hcounts : line.trim.isSignificant = true := by
      rwa [← isSignificant_eq_false_iff, Bool.not_eq_false] at hsilent
    by_cases hopener : opener <+: line.trim
    · cases hopened : progress.opened <;> simp [hsilent, hcounts, hopener]
    · by_cases hcloser : line.trim = closer
      · rw [hcloser] at hsilent hcounts hopener ⊢
        cases hopened : progress.opened <;> simp [hsilent, hcounts, hopener]
      · cases hopened : progress.opened <;> simp [hsilent, hcounts, hopener, hcloser]

/-! ## Which files can be read -/

/-- What is out of place first: the fault, and the line that shows it. -/
inductive Misplaced : List Fence → ScriptFault → Text → Prop
  /-- a definition begins although another one has not ended -/
  | nested {before : List Fence} (name raw name' raw' : Text) (after : List Fence) :
    Fence.Alternates before →
      Misplaced (before ++ .opens name raw :: .opens name' raw' :: after) (.nestedMacro name) raw'
  /-- a definition ends although none has begun -/
  | stray {before : List Fence} (raw : Text) (after : List Fence) :
    Fence.Alternates before → Misplaced (before ++ .closes raw :: after) .strayMacroEnd raw
  /-- the file ends although a definition has not ended -/
  | unclosed {before : List Fence} (name raw : Text) :
    Fence.Alternates before → Misplaced (before ++ [.opens name raw]) (.unclosedMacro name) []

/-- Fences alternate, or something is out of place first. -/
theorem alternates_or_misplaced (fences : List Fence) :
    Fence.Alternates fences ∨ ∃ fault line, Misplaced fences fault line := by
  refine (Fence.alternates_or_violation fences).imp_right ?_
  rintro ⟨_, _, hviolation⟩
  cases hviolation with
  | unfinished name raw name' _ after hbefore => exact ⟨_, _, .nested name raw name' _ after hbefore⟩
  | stray _ after hbefore => exact ⟨_, _, .stray _ after hbefore⟩
  | unclosed name raw hbefore => exact ⟨_, _, .unclosed name raw hbefore⟩

/-- The judgement on some fences, given the name of the definition that has begun before them. -/
def judge : Option Text → List Fence → Except ScriptError Unit
  | none, [] => .ok ()
  | some name, [] => .error (.malformed (.unclosedMacro name) [])
  | none, .opens name _ :: rest => judge (some name) rest
  | some name, .opens _ raw :: _ => .error (.malformed (.nestedMacro name) raw)
  | none, .closes raw :: _ => .error (.malformed .strayMacroEnd raw)
  | some _, .closes _ :: rest => judge none rest

theorem judge_append {before : List Fence} (h : Fence.Alternates before) (rest : List Fence) :
    judge none (before ++ rest) = judge none rest := by
  induction h with
  | nil => rfl
  | cons name raw raw' _ ih => exact ih

theorem judge_of_alternates {fences : List Fence} (h : Fence.Alternates fences) : judge none fences = .ok () := by
  have hjudge := judge_append h []
  rwa [List.append_nil] at hjudge

theorem judge_of_misplaced {fences : List Fence} (h : Misplaced fences fault line) :
    judge none fences = .error (.malformed fault line) := by
  cases h with
  | nested name raw name' _ after hbefore => exact judge_append hbefore _
  | stray _ after hbefore => exact judge_append hbefore _
  | unclosed name raw hbefore => exact judge_append hbefore _

theorem judge_eq_ok_iff {fences : List Fence} : judge none fences = .ok () ↔ Fence.Alternates fences := by
  refine ⟨fun h => ?_, judge_of_alternates⟩
  rcases alternates_or_misplaced fences with halternates | ⟨fault, line, hmisplaced⟩
  · exact halternates
  · rw [judge_of_misplaced hmisplaced] at h
    cases h

theorem judge_eq_error_iff {fences : List Fence} {error : ScriptError} :
    judge none fences = .error error ↔
      ∃ fault line, error = .malformed fault line ∧ Misplaced fences fault line := by
  constructor
  · intro h
    rcases alternates_or_misplaced fences with halternates | ⟨fault, line, hmisplaced⟩
    · rw [judge_of_alternates halternates] at h
      cases h
    · rw [judge_of_misplaced hmisplaced] at h
      exact ⟨fault, line, (Except.error.inj h).symm, hmisplaced⟩
  · rintro ⟨fault, line, rfl, hmisplaced⟩
    exact judge_of_misplaced hmisplaced

/-- What is left when the file has ended. -/
def Progress.finish (progress : Progress) : Except ScriptError MacroTable :=
  match progress.opened with
  | some (name, _) => .error (.malformed (.unclosedMacro name) [])
  | none => .ok progress.table

theorem ofLines_eq (lines : List Text) : ofLines lines = (readLines {} lines).bind Progress.finish := by
  rw [ofLines]
  cases readLines {} lines <;> rfl

/-- Reading lines to the end of the file succeeds and fails like the judgement on their fences. -/
theorem judge_of_readLines (progress : Progress) (lines : List Text) :
    ((readLines progress lines).bind Progress.finish).map (fun _ => ()) =
      judge (progress.opened.map Prod.fst) (fences lines) := by
  induction lines generalizing progress with
  | nil =>
    cases h : progress.opened <;> simp [readLines, Except.bind, Progress.finish, h, Except.map, fences, judge]
  | cons line rest ih =>
    rw [readLines, readLine_eq, fences, List.filterMap_cons, Mark.fence?]
    cases hmark : Mark.ofLine? line with
    | none => exact ih progress
    | some mark =>
      cases mark <;> cases hopened : progress.opened
      case opens.none name => exact ih { progress with opened := some (name, []) }
      case opens.some name pending => rfl
      case closes.none => rfl
      case closes.some pending => exact ih { table := progress.table.define pending.1 pending.2.reverse }
      case inner.none text =>
        have ih := ih progress
        rw [hopened] at ih
        exact ih
      case inner.some text pending => exact ih { progress with opened := some (pending.1, text :: pending.2) }

/-! ## Blocks -/

/-- Lines that are blocks one after the other, each between the beginning and the end of a definition. Other
lines may stand between the blocks. -/
inductive Defines : List Mark → List (Text × List Text) → Prop
  | nil : Defines [] []
  | outside (text : Text) {rest : List Mark} {blocks : List (Text × List Text)} :
    Defines rest blocks → Defines (.inner text :: rest) blocks
  | block (name : Text) (body : List Text) {rest : List Mark} {blocks : List (Text × List Text)} :
    Defines rest blocks →
      Defines (.opens name :: (body.map .inner ++ .closes :: rest)) ((name, body) :: blocks)

/-- The table with blocks defined one after the other. -/
def defineAll (table : MacroTable) (blocks : List (Text × List Text)) : MacroTable :=
  blocks.foldl (fun table (name, body) => table.define name body) table

/-- What the lines said since the definition began that has not ended. -/
def Progress.pending (progress : Progress) : List Mark :=
  match progress.opened with
  | none => []
  | some (name, body) => .opens name :: body.reverse.map .inner

/-- The lines that were read are blocks, and these are what is defined behind them. -/
theorem exists_defines {after : Progress} (h : readLines progress lines = .ok after) (hend : after.opened = none) :
    ∃ blocks, Defines (progress.pending ++ marks lines) blocks ∧
      after.table = progress.table.defineAll blocks := by
  induction lines generalizing progress with
  | nil =>
    obtain rfl := Except.ok.inj h
    refine ⟨[], ?_, rfl⟩
    rw [Progress.pending, hend]
    exact .nil
  | cons line rest ih =>
    rw [readLines, readLine_eq] at h
    rw [marks_cons]
    cases hmark : Mark.ofLine? line with
    | none =>
      rw [hmark] at h
      exact ih h
    | some mark =>
      rw [hmark] at h
      rw [Progress.pending]
      cases mark <;> rcases hopened : progress.opened with _ | ⟨name, body⟩ <;> rw [hopened] at h
      case opens.none name => exact ih h
      case opens.some => cases h
      case closes.none => cases h
      case closes.some =>
        obtain ⟨blocks, hblocks, htable⟩ := ih h
        exact ⟨(name, body.reverse) :: blocks,
          by simpa [Progress.pending] using hblocks.block name body.reverse, htable⟩
      case inner.none text =>
        obtain ⟨blocks, hblocks, htable⟩ := ih h
        rw [Progress.pending, hopened] at hblocks
        exact ⟨blocks, .outside text hblocks, htable⟩
      case inner.some text =>
        obtain ⟨blocks, hblocks, htable⟩ := ih h
        exact ⟨blocks, by simpa [Progress.pending] using hblocks, htable⟩

/-! ## Tables -/

/-- The names in a table. -/
def keys (table : MacroTable) : List Text := table.map Prod.fst

theorem lookup?_eq_lookup (name : Text) (table : MacroTable) : table.lookup? name = List.lookup name table := by
  induction table with
  | nil => rfl
  | cons entry rest ih =>
    rw [lookup?, List.lookup_cons, ih]
    by_cases hname : name = entry.1
    · simp [hname]
    · simp [beq_eq_false_iff_ne.2 hname, Ne.symm hname]

/-- Of the blocks with a name, the last one counts. -/
theorem lookup?_defineAll (table : MacroTable) (blocks : List (Text × List Text)) (name : Text) :
    (table.defineAll blocks).lookup? name = (lookup? name blocks.reverse).or (table.lookup? name) := by
  induction blocks generalizing table with
  | nil => rfl
  | cons block rest ih =>
    have hblock : (lookup? name [block]).or (table.lookup? name) =
        (table.define block.1 block.2).lookup? name := by
      rw [lookup?_define, lookup?]
      by_cases hname : name = block.1
      · simp [hname]
      · simp [hname, Ne.symm hname, lookup?]
    calc ((table.define block.1 block.2).defineAll rest).lookup? name
      _ = (lookup? name rest.reverse).or ((lookup? name [block]).or (table.lookup? name)) := by rw [ih, hblock]
      _ = (lookup? name (block :: rest).reverse).or (table.lookup? name) := by
        simp only [lookup?_eq_lookup, List.reverse_cons, List.lookup_append, Option.or_assoc]

theorem lookup?_reverse_eq_some_iff :
    lookup? name blocks.reverse = some body ↔
      ∃ before after, blocks = before ++ (name, body) :: after ∧ ∀ block ∈ after, block.1 ≠ name := by
  rw [lookup?_eq_lookup, List.lookup_eq_some_iff]
  constructor
  · rintro ⟨after, before, hsplit, hafter⟩
    refine ⟨before.reverse, after.reverse, by simpa using congrArg List.reverse hsplit, ?_⟩
    exact fun block hblock => (bne_iff_ne.1 (hafter block (List.mem_reverse.1 hblock))).symm
  · rintro ⟨before, after, rfl, hafter⟩
    refine ⟨after.reverse, before.reverse, by simp, ?_⟩
    exact fun block hblock => bne_iff_ne.2 (hafter block (List.mem_reverse.1 hblock)).symm

theorem define_of_not_mem (h : name ∉ table.keys) : table.define name body = table ++ [(name, body)] := by
  induction table with
  | nil => rfl
  | cons entry rest ih =>
    have hentry : entry.1 ≠ name := fun heq => h (heq ▸ List.mem_cons_self)
    rw [define, if_neg hentry, ih fun hmem => h (List.mem_cons_of_mem _ hmem), List.cons_append]

theorem keys_define_of_mem (h : name ∈ table.keys) : (table.define name body).keys = table.keys := by
  induction table with
  | nil => cases h
  | cons entry rest ih =>
    by_cases hentry : entry.1 = name
    · rw [define, if_pos hentry]
      rfl
    · have hrest := (List.mem_cons.1 h).resolve_left (Ne.symm hentry)
      rw [define, if_neg hentry]
      exact congrArg (entry.1 :: ·) (ih hrest)

theorem nodup_define (h : table.keys.Nodup) (name : Text) (body : List Text) :
    (table.define name body).keys.Nodup := by
  by_cases hname : name ∈ table.keys
  · rwa [keys_define_of_mem hname]
  · rw [define_of_not_mem hname, keys, List.map_append]
    refine List.nodup_append.2 ⟨h, by simp, ?_⟩
    rintro key hkey _ hlast rfl
    obtain rfl := List.mem_singleton.1 hlast
    exact hname hkey

theorem nodup_defineAll (h : table.keys.Nodup) (blocks : List (Text × List Text)) :
    (table.defineAll blocks).keys.Nodup := by
  induction blocks generalizing table with
  | nil => exact h
  | cons block rest ih => exact ih (nodup_define h block.1 block.2)

theorem mem_define {entry : Text × List Text} (h : entry ∈ table.define name body) :
    entry = (name, body) ∨ entry ∈ table := by
  induction table with
  | nil => exact .inl (List.mem_singleton.1 h)
  | cons first rest ih =>
    by_cases hfirst : first.1 = name
    · rw [define, if_pos hfirst, List.mem_cons, hfirst] at h
      exact h.imp_right (List.mem_cons_of_mem first)
    · rw [define, if_neg hfirst, List.mem_cons] at h
      rcases h with rfl | h
      · exact .inr List.mem_cons_self
      · exact (ih h).imp_right (List.mem_cons_of_mem first)

/-- Nothing is in a table but blocks. -/
theorem mem_defineAll {entry : Text × List Text} (h : entry ∈ table.defineAll blocks) :
    entry ∈ blocks ∨ entry ∈ table := by
  induction blocks generalizing table with
  | nil => exact .inr h
  | cons block rest ih =>
    rcases ih h with hrest | htable
    · exact .inl (List.mem_cons_of_mem block hrest)
    · rcases mem_define htable with rfl | htable
      · exact .inl List.mem_cons_self
      · exact .inr htable

/-- With each name once, defining entries adds them to the table. -/
theorem defineAll_of_nodup {entries : MacroTable} (h : (keys (table ++ entries)).Nodup) :
    table.defineAll entries = table ++ entries := by
  induction entries generalizing table with
  | nil => exact (List.append_nil table).symm
  | cons entry rest ih =>
    have hfresh : entry.1 ∉ table.keys := by
      rw [keys, List.map_append, List.nodup_append] at h
      exact fun hmem => h.2.2 _ hmem _ List.mem_cons_self rfl
    rw [List.append_cons] at h ⊢
    rw [← ih h, ← define_of_not_mem hfresh]
    rfl

theorem lookup?_eq_some_iff_mem (h : table.keys.Nodup) :
    table.lookup? name = some body ↔ (name, body) ∈ table := by
  rw [lookup?_eq_lookup, List.lookup_eq_some_iff]
  constructor
  · rintro ⟨before, after, rfl, -⟩
    exact List.mem_append_right before List.mem_cons_self
  · intro hmem
    obtain ⟨before, after, rfl⟩ := List.append_of_mem hmem
    rw [keys, List.map_append, List.nodup_append] at h
    refine ⟨before, after, rfl, fun entry hentry => bne_iff_ne.2 ?_⟩
    exact (h.2.2 _ (List.mem_map_of_mem hentry) _ List.mem_cons_self).symm

/-- The order of the entries does not matter. -/
theorem lookup?_of_perm {table' : MacroTable} (h : table.keys.Nodup) (hperm : table'.Perm table) (name : Text) :
    table'.lookup? name = table.lookup? name := by
  have h' : table'.keys.Nodup := (hperm.map Prod.fst).nodup_iff.2 h
  ext body
  rw [lookup?_eq_some_iff_mem h, lookup?_eq_some_iff_mem h', hperm.mem_iff]

/-! ## Names and bodies -/

/-- A line that can stand between the beginning and the end of a definition, and counts there. -/
structure IsBodyLine (line : Text) : Prop where
  ne_nil : line ≠ []
  trim_eq : line.trim = line
  no_comment : line.head? ≠ some '#'
  not_opening : ¬ opener <+: line
  ne_closer : line ≠ closer

/-- A name and lines that a file can define. -/
structure IsDefinition (entry : Text × List Text) : Prop where
  name_ne_nil : entry.1 ≠ []
  trim_name : entry.1.trim = entry.1
  body : ∀ line ∈ entry.2, IsBodyLine line

/-- What a line says can be written as a line. -/
def Mark.Writable : Mark → Prop
  | opens name => name ≠ [] ∧ name.trim = name
  | closes => True
  | inner text => IsBodyLine text

/-- Behind the word that begins a definition, a trimmed line does not end. -/
theorem trim_ne_nil_of_opener {rest : Text} (h : line.trim = opener ++ rest) : rest.trim ≠ [] := by
  intro hnil
  have hblank : Text.Blank (' ' :: rest) :=
    List.forall_mem_cons.2 ⟨Text.isBlank_space, Text.trim_eq_nil_iff.1 hnil⟩
  have htrim : Text.trim ("macro".toList ++ ' ' :: rest) = "macro".toList := Text.trim_append hblank
  have hwhole : Text.trim (opener ++ rest) = opener ++ rest := by rw [← h, Text.trim_trim]
  exact absurd (congrArg List.length (htrim.symm.trans hwhole)) (by simp [opener])

theorem writable_of_ofLine? {mark : Mark} (h : Mark.ofLine? line = some mark) : mark.Writable := by
  rw [Mark.ofLine?] at h
  split at h
  · cases h
  next hcounts =>
  obtain ⟨hne, hcomment⟩ := not_or.1 hcounts
  split at h
  next hopener =>
    obtain ⟨rest, hrest⟩ := hopener
    obtain rfl := Option.some.inj h
    rw [← hrest, List.drop_left]
    exact ⟨trim_ne_nil_of_opener hrest.symm, Text.trim_trim rest⟩
  next hopener =>
    split at h
    · obtain rfl := Option.some.inj h
      trivial
    next hcloser =>
      obtain rfl := Option.some.inj h
      exact ⟨hne, Text.trim_trim line, hcomment, hopener, hcloser⟩

theorem writable_of_mem_marks : ∀ mark ∈ marks lines, mark.Writable := by
  intro mark hmark
  obtain ⟨line, -, hline⟩ := List.mem_filterMap.1 hmark
  exact writable_of_ofLine? hline

/-- Blocks of lines are definitions. -/
theorem Defines.isDefinition {marks : List Mark} (h : Defines marks blocks)
    (hmarks : ∀ mark ∈ marks, mark.Writable) : ∀ block ∈ blocks, IsDefinition block := by
  induction h with
  | nil => exact fun _ hblock => absurd hblock List.not_mem_nil
  | outside text _ ih => exact ih (List.forall_mem_cons.1 hmarks).2
  | block name body _ ih =>
    obtain ⟨⟨hne, htrim⟩, hmarks⟩ := List.forall_mem_cons.1 hmarks
    obtain ⟨hbody, hmarks⟩ := List.forall_mem_append.1 hmarks
    refine List.forall_mem_cons.2 ⟨⟨hne, htrim, fun line hline => ?_⟩, ih (List.forall_mem_cons.1 hmarks).2⟩
    exact hbody _ (List.mem_map_of_mem hline)

/-! ## Writing a table -/

/-- The lines of a file that defines a table. -/
def toLines (table : MacroTable) : List Text :=
  table.flatMap fun (name, body) => (opener ++ name) :: (body ++ [closer])

theorem ofLine?_opener (hne : name ≠ []) (htrim : name.trim = name) :
    Mark.ofLine? (opener ++ name) = some (.opens name) := by
  have hline : Text.trim (opener ++ name) = opener ++ name := Text.trim_append_trimmed rfl htrim hne "acro ".toList
  rw [Mark.ofLine?, hline, if_neg (by simp [opener]), if_pos (List.prefix_append opener name), List.drop_left,
    htrim]

theorem ofLine?_closer : Mark.ofLine? closer = some .closes := by decide

theorem IsBodyLine.ofLine? (h : IsBodyLine line) : Mark.ofLine? line = some (.inner line) := by
  rw [Mark.ofLine?, h.trim_eq, if_neg (not_or.2 ⟨h.ne_nil, h.no_comment⟩), if_neg h.not_opening,
    if_neg h.ne_closer]

theorem readLines_body (h : ∀ line ∈ body, IsBodyLine line) (table : MacroTable) (name : Text)
    (before : List Text) :
    readLines { table, opened := some (name, before) } body =
      .ok { table, opened := some (name, body.reverse ++ before) } := by
  induction body generalizing before with
  | nil => rfl
  | cons line rest ih =>
    obtain ⟨hline, hrest⟩ := List.forall_mem_cons.1 h
    rw [readLines, readLine_eq, hline.ofLine?]
    simpa using ih hrest (line :: before)

theorem readLines_block {entry : Text × List Text} (h : IsDefinition entry) (table : MacroTable)
    (rest : List Text) :
    readLines { table } ((opener ++ entry.1) :: (entry.2 ++ [closer]) ++ rest) =
      readLines { table := table.define entry.1 entry.2 } rest := by
  rw [List.cons_append, List.append_assoc, readLines, readLine_eq, ofLine?_opener h.name_ne_nil h.trim_name]
  dsimp only
  rw [readLines_append, readLines_body h.body]
  dsimp only [Except.bind]
  rw [List.singleton_append, readLines, readLine_eq, ofLine?_closer]
  simp

theorem readLines_toLines {entries : MacroTable} (h : ∀ entry ∈ entries, IsDefinition entry) (table : MacroTable) :
    readLines { table } entries.toLines = .ok { table := table.defineAll entries } := by
  induction entries generalizing table with
  | nil => rfl
  | cons entry rest ih =>
    obtain ⟨hentry, hrest⟩ := List.forall_mem_cons.1 h
    rw [toLines, List.flatMap_cons, readLines_block hentry]
    exact ih hrest _

/-- A table is defined by the file that is written for it. -/
theorem ofLines_toLines (h : ∀ entry ∈ table, IsDefinition entry) (hkeys : table.keys.Nodup) :
    ofLines table.toLines = .ok table := by
  have hall : defineAll [] table = table := defineAll_of_nodup hkeys
  rw [ofLines_eq, readLines_toLines h, hall]
  rfl

/-! ## Definitions -/

/-- A file that can be read has blocks, and its table is what these define. -/
theorem exists_defines_of_ofLines (h : ofLines lines = .ok table) :
    ∃ blocks, Defines (marks lines) blocks ∧ table = defineAll [] blocks := by
  rw [ofLines_eq] at h
  cases hread : readLines {} lines with
  | error error =>
    rw [hread] at h
    cases h
  | ok after =>
    rw [hread] at h
    change after.finish = _ at h
    cases hopened : after.opened with
    | some pending =>
      rw [Progress.finish, hopened] at h
      cases h
    | none =>
      rw [Progress.finish, hopened] at h
      obtain rfl := Except.ok.inj h
      exact exists_defines hread hopened

/-- **Definitions are blocks.** A file of macros can be read exactly if the lines that begin and end definitions
take turns. If they do not, the error is the one about the line that is out of place first. If they do, a name
stands for the lines of the last block with this name. These are such that the table can be written as a file
again, its entries in any order, and this file defines the same. -/
theorem definitions_are_blocks (lines : List Text) :
    ((∃ table, ofLines lines = .ok table) ↔ Fence.Alternates (fences lines)) ∧
    (∀ error, ofLines lines = .error error ↔
      ∃ fault line, error = .malformed fault line ∧ Misplaced (fences lines) fault line) ∧
    ∀ table, ofLines lines = .ok table →
      (∃ blocks, Defines (marks lines) blocks ∧ ∀ name body, table.lookup? name = some body ↔
        ∃ before after, blocks = before ++ (name, body) :: after ∧ ∀ block ∈ after, block.1 ≠ name) ∧
      (∀ entry ∈ table, IsDefinition entry) ∧
      ∀ table' : MacroTable, table'.Perm table →
        ofLines table'.toLines = .ok table' ∧ ∀ name, table'.lookup? name = table.lookup? name := by
  have hjudge : (ofLines lines).map (fun _ => ()) = judge none (fences lines) :=
    (congrArg _ (ofLines_eq lines)).trans (judge_of_readLines {} lines)
  refine ⟨?_, fun error => ?_, fun table htable => ?_⟩
  · rw [← judge_eq_ok_iff, ← hjudge]
    cases ofLines lines <;> simp [Except.map]
  · rw [← judge_eq_error_iff, ← hjudge]
    cases ofLines lines <;> simp [Except.map]
  · obtain ⟨blocks, hblocks, rfl⟩ := exists_defines_of_ofLines htable
    have hkeys : (defineAll [] blocks).keys.Nodup :=
      nodup_defineAll (show (keys []).Nodup from List.nodup_nil) blocks
    have hentries : ∀ entry ∈ defineAll [] blocks, IsDefinition entry := fun entry hentry =>
      hblocks.isDefinition writable_of_mem_marks entry ((mem_defineAll hentry).resolve_right List.not_mem_nil)
    refine ⟨⟨blocks, hblocks, fun name body => ?_⟩, hentries, fun table' hperm => ⟨?_, ?_⟩⟩
    · rw [lookup?_defineAll, lookup?, Option.or_none, lookup?_reverse_eq_some_iff]
    · exact ofLines_toLines (fun entry hentry => hentries entry (hperm.mem_iff.1 hentry))
        ((hperm.map Prod.fst).nodup_iff.2 hkeys)
    · exact lookup?_of_perm hkeys hperm

/-- A file that defines a macro twice, with a comment in one block and a line between two of them. -/
theorem definitions_are_blocks_of_redefined :
    let lines :=
      ["macro a", " x ", "# one", "endMacro", "macro b", "endMacro", "x", "macro  a ", "y", "\tendMacro"]
    let table : MacroTable := [("a".toList, ["y".toList]), ("b".toList, [])]
    ofLines (lines.map String.toList) = .ok table ∧
      (∃ blocks, Defines (marks (lines.map String.toList)) blocks ∧ ∀ name body, table.lookup? name = some body ↔
        ∃ before after, blocks = before ++ (name, body) :: after ∧ ∀ block ∈ after, block.1 ≠ name) ∧
      (∀ entry ∈ table, IsDefinition entry) ∧
      ∀ table' : MacroTable, table'.Perm table →
        ofLines table'.toLines = .ok table' ∧ ∀ name, table'.lookup? name = table.lookup? name := by
  intro lines table
  have h : ofLines (lines.map String.toList) = .ok table := by decide +kernel
  exact ⟨h, (definitions_are_blocks (lines.map String.toList)).2.2 table h⟩

end MacroTable

end ScreenScript
