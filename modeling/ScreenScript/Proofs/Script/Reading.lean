import ScreenScript.Script.Compilation
import Mathlib.Data.List.Infix

/-!
# Readings of a line

The structure of a script hangs on two kinds of lines, those that open a step and those that close
one. No other reading can hide them: all keywords are looked for at the beginning of the same text, the
lower case of the line, and none of these keywords is the beginning of another.

* `Command.ofLine_of_opening`, `Command.ofLine_of_closer` — such a line is no single command
* `Line.read_of_opening`, `Line.read_of_closer` — it is read as what it is
* `Draft.readLine_of_opening`, … — what a line does to a draft, by its own text and by whether a step is
  open
-/

namespace ScreenScript

/-! ## Keywords -/

namespace Keyword

/-- A keyword has an argument exactly where the lower case of the text begins with it. -/
theorem isSome_argument? {keyword t : Text} :
    (argument? keyword t).isSome = true ↔ keyword <+: t.lower := by
  rw [argument?, ← List.isPrefixOf_iff_prefix]
  split <;> simp_all

theorem argument?_eq_none {keyword t : Text} : argument? keyword t = none ↔ ¬ keyword <+: t.lower := by
  rw [← isSome_argument?, Option.not_isSome_iff_eq_none]

theorem prefix_of_argument? {keyword t argument : Text} (h : argument? keyword t = some argument) :
    keyword <+: t.lower :=
  isSome_argument?.1 (by rw [h]; rfl)

/-- Of two keywords neither of which begins with the other, a text begins with at most one. -/
theorem not_prefix_of_apart {v w t : Text} (h : ¬ v <+: w ∧ ¬ w <+: v) (hv : v <+: t) : ¬ w <+: t := by
  intro hw
  rcases List.prefix_or_prefix_of_prefix hv hw with hvw | hwv
  · exact h.1 hvw
  · exact h.2 hwv

end Keyword

namespace Line

/-- The keywords on which the structure of a script hangs. -/
def fenceWords : List Text := closer :: openers.map Prod.fst

theorem opening?_eq_none {line : Text} :
    opening? line = none ↔ ∀ word ∈ openers.map Prod.fst, ¬ word <+: line.lower := by
  simp [opening?, Keyword.argument?_eq_none]

/-- A line that opens a step begins with one of the keywords for that. -/
theorem prefix_of_opening? {line name : Text} {kind : StepKind} (h : opening? line = some (kind, name)) :
    ∃ word ∈ openers.map Prod.fst, word <+: line.lower := by
  obtain ⟨⟨word, kind'⟩, hmem, hsome⟩ := List.exists_of_findSome?_eq_some h
  obtain ⟨argument, harg, -⟩ := Option.map_eq_some_iff.1 hsome
  exact ⟨word, List.mem_map_of_mem hmem, Keyword.prefix_of_argument? harg⟩

/-- A line with a keyword for the structure. -/
theorem fenceWord_of_opening {line name : Text} {kind : StepKind}
    (h : opening? line = some (kind, name)) : ∃ word ∈ fenceWords, word <+: line.lower := by
  obtain ⟨word, hmem, hword⟩ := prefix_of_opening? h
  exact ⟨word, List.mem_cons_of_mem _ hmem, hword⟩

theorem fenceWord_of_closer {line : Text} (h : line.lower = closer) :
    ∃ word ∈ fenceWords, word <+: line.lower :=
  ⟨closer, List.mem_cons_self, h ▸ List.prefix_refl _⟩

/-- The end of a step opens none. -/
theorem opening?_of_closer {line : Text} (h : line.lower = closer) : opening? line = none := by
  have apart : ∀ word ∈ openers.map Prod.fst, ¬ word <+: closer := by decide
  rw [opening?_eq_none, h]
  exact apart

theorem read_of_opening {line name : Text} {kind : StepKind} (h : opening? line = some (kind, name)) :
    read line = .opens kind name := by
  rw [read, h]

/-- The end of a step is neither the header of a part nor something to remember. -/
theorem read_of_closer {line : Text} (h : line.lower = closer) : read line = .closes := by
  have hheader : header? line = none := by
    rw [header?, h]
    decide
  have hmemory : Keyword.argument? memoryWord line = none := by
    rw [Keyword.argument?_eq_none, h]
    decide
  rw [read, opening?_of_closer h, hheader, hmemory]
  exact if_pos h

end Line

namespace Command

/-- The keywords of single commands. -/
def keywords : List Text :=
  words.map Prod.fst ++ packageWords.map Prod.fst ++ [waitWord, descriptionWord]

/-- What a command asks for, if it asks for anything. -/
def task? : Command → Option Task
  | task asked => some asked
  | _ => none

/-- A line without any of the keywords is no single command. -/
theorem ofLine_eq_other {line : Text} (h : ∀ word ∈ keywords, ¬ word <+: line.lower) :
    ofLine line = other := by
  have hword : ofWord? line = none := by
    rw [ofWord?, Option.map_eq_none_iff, List.find?_eq_none]
    intro entry hmem heq
    refine h entry.1 ?_ (of_decide_eq_true heq ▸ List.prefix_refl _)
    exact List.mem_append_left _ (List.mem_append_left _ (List.mem_map_of_mem hmem))
  have hpackage : ofPackage? line = none := by
    rw [ofPackage?, List.findSome?_eq_none_iff]
    intro entry hmem
    refine Option.map_eq_none_iff.2 (Keyword.argument?_eq_none.2 (h entry.1 ?_))
    exact List.mem_append_left _ (List.mem_append_right _ (List.mem_map_of_mem hmem))
  have hwait : Keyword.argument? waitWord line = none :=
    Keyword.argument?_eq_none.2 (h waitWord (by simp [keywords]))
  have hdescription : Keyword.argument? descriptionWord line = none :=
    Keyword.argument?_eq_none.2 (h descriptionWord (by simp [keywords]))
  rw [ofLine, hword, hpackage, hwait, hdescription]

/-- No keyword of a single command is the beginning of one for the structure, or the other way round. -/
theorem fenceWords_apart :
    ∀ v ∈ Line.fenceWords, ∀ w ∈ keywords, ¬ v <+: w ∧ ¬ w <+: v := by decide

theorem ofLine_of_fenceWord {line : Text} (h : ∃ word ∈ Line.fenceWords, word <+: line.lower) :
    ofLine line = other := by
  obtain ⟨v, hv, hprefix⟩ := h
  apply ofLine_eq_other
  intro w hw
  exact Keyword.not_prefix_of_apart (fenceWords_apart v hv w hw) hprefix

theorem ofLine_of_opening {line name : Text} {kind : StepKind}
    (h : Line.opening? line = some (kind, name)) : ofLine line = other :=
  ofLine_of_fenceWord (Line.fenceWord_of_opening h)

theorem ofLine_of_closer {line : Text} (h : line.lower = Line.closer) : ofLine line = other :=
  ofLine_of_fenceWord (Line.fenceWord_of_closer h)

end Command

/-! ## What a line does -/

/-- The part that a line begins: it is the header of that part, or something to remember. -/
def Line.mark? (line : Text) : Option Part :=
  match header? line with
  | some part => some part
  | none => if (Keyword.argument? memoryWord line).isSome then some .memories else none

namespace Draft

variable {maxRepeats : Int} {draft : Draft} {line raw name : Text} {kind : StepKind}

/-- The draft in which a step begins. -/
def start (draft : Draft) (kind : StepKind) (name : Text) : Draft :=
  { draft with
    opened := some kind, name, part := .preamble, assertions := [], actions := [], memories := [] }

/-- The draft with a line collected that neither opens nor closes a step. -/
def collect (draft : Draft) (line : Text) : Draft :=
  match Line.read line with
  | .header part => { draft with part }
  | .memory text =>
    { draft with
      part := .memories
      memories := if text = [] then draft.memories else draft.memories ++ [text] }
  | _ => draft.add line

@[simp] theorem tasks_add : (draft.add line).tasks = draft.tasks := by rw [add]; split <;> rfl

@[simp] theorem opened_add : (draft.add line).opened = draft.opened := by rw [add]; split <;> rfl

@[simp] theorem name_add : (draft.add line).name = draft.name := by rw [add]; split <;> rfl

@[simp] theorem part_add : (draft.add line).part = draft.part := by rw [add]; split <;> rfl

@[simp] theorem tasks_collect : (draft.collect line).tasks = draft.tasks := by
  rw [collect]; split <;> simp

@[simp] theorem opened_collect : (draft.collect line).opened = draft.opened := by
  rw [collect]; split <;> simp

@[simp] theorem name_collect : (draft.collect line).name = draft.name := by
  rw [collect]; split <;> simp

theorem readStepLine_of_opening (h : Line.opening? line = some (kind, name)) :
    draft.readStepLine maxRepeats line raw =
      match draft.opened with
      | some _ => .error (.malformed (.unfinishedStep draft.name) raw)
      | none => .ok (draft.start kind name) := by
  cases ho : draft.opened with
  | some kind' => simp only [readStepLine, Line.read_of_opening h, ho]
  | none => simp only [readStepLine, Line.read_of_opening h, ho, start]

theorem readStepLine_of_closer (h : line.lower = Line.closer) :
    draft.readStepLine maxRepeats line raw =
      match draft.opened with
      | some kind => .ok (draft.close kind maxRepeats)
      | none => .error (.malformed .strayEnd raw) := by
  cases ho : draft.opened with
  | some kind => simp only [readStepLine, Line.read_of_closer h, ho]
  | none => simp only [readStepLine, Line.read_of_closer h, ho]

/-- A line that neither opens nor closes a step is collected. -/
theorem readStepLine_of_inner (ho : Line.opening? line = none) (hc : line.lower ≠ Line.closer) :
    draft.readStepLine maxRepeats line raw = .ok (draft.collect line) := by
  rw [readStepLine, collect, Line.read, ho]
  dsimp only
  cases Line.header? line with
  | some part => rfl
  | none =>
    cases Keyword.argument? Line.memoryWord line with
    | some text => rfl
    | none => rw [if_neg hc]

/-- A step begins where none is open. -/
theorem readLine_of_opening (h : Line.opening? line = some (kind, name)) (hd : draft.opened = none) :
    draft.readLine maxRepeats line raw = .ok (draft.start kind name) := by
  rw [readLine, Command.ofLine_of_opening h, readStepLine_of_opening h, hd]
  rfl

/-- No step begins where one is open. -/
theorem readLine_of_opening_inside (h : Line.opening? line = some (kind, name))
    (hd : draft.opened.isSome = true) :
    draft.readLine maxRepeats line raw = .error (.malformed (.unfinishedStep draft.name) raw) := by
  obtain ⟨kind', hkind⟩ := Option.isSome_iff_exists.1 hd
  rw [readLine, if_pos hd, readStepLine_of_opening h, hkind]

/-- A step ends where one is open. -/
theorem readLine_of_closer (h : line.lower = Line.closer) (hd : draft.opened = some kind) :
    draft.readLine maxRepeats line raw = .ok (draft.close kind maxRepeats) := by
  rw [readLine, if_pos (by rw [hd]; rfl), readStepLine_of_closer h, hd]

/-- No step ends where none is open. -/
theorem readLine_of_closer_outside (h : line.lower = Line.closer) (hd : draft.opened = none) :
    draft.readLine maxRepeats line raw = .error (.malformed .strayEnd raw) := by
  rw [readLine, Command.ofLine_of_closer h, readStepLine_of_closer h, hd]
  rfl

/-- Any other line is collected where a step is open. -/
theorem readLine_of_inner_inside (ho : Line.opening? line = none) (hc : line.lower ≠ Line.closer)
    (hd : draft.opened.isSome = true) :
    draft.readLine maxRepeats line raw = .ok (draft.collect line) := by
  rw [readLine, if_pos hd, readStepLine_of_inner ho hc]

/-- Any other line gives the task of its command where no step is open, and opens none. -/
theorem readLine_of_inner_outside (raw : Text) (ho : Line.opening? line = none)
    (hc : line.lower ≠ Line.closer) (hd : draft.opened = none) :
    ∃ next, draft.readLine maxRepeats line raw = .ok next ∧ next.opened = none ∧
      next.tasks = draft.tasks ++ (Command.ofLine line).task?.toList := by
  rw [readLine, if_neg (by rw [hd]; decide)]
  cases Command.ofLine line with
  | task task => exact ⟨_, rfl, hd, rfl⟩
  | ignored => exact ⟨draft, rfl, hd, (List.append_nil _).symm⟩
  | other =>
    refine ⟨draft.collect line, readStepLine_of_inner ho hc, ?_, ?_⟩
    · rw [opened_collect, hd]
    · rw [tasks_collect]
      exact (List.append_nil _).symm

/-- A line that begins a part changes the part and nothing of what a step consists of. -/
theorem collect_of_mark {part : Part} (ho : Line.opening? line = none)
    (h : Line.mark? line = some part) :
    (draft.collect line).part = part ∧ (draft.collect line).assertions = draft.assertions ∧
      (draft.collect line).actions = draft.actions := by
  rw [Line.mark?] at h
  rw [collect, Line.read, ho]
  dsimp only
  cases hh : Line.header? line with
  | some part' =>
    rw [hh] at h
    obtain rfl := Option.some.inj h
    exact ⟨rfl, rfl, rfl⟩
  | none =>
    rw [hh] at h
    cases hm : Keyword.argument? Line.memoryWord line with
    | some text =>
      rw [hm] at h
      obtain rfl := Option.some.inj h
      exact ⟨rfl, rfl, rfl⟩
    | none =>
      rw [hm] at h
      cases h

/-- A line that begins no part is added to the part it stands in. -/
theorem collect_of_content (ho : Line.opening? line = none) (hc : line.lower ≠ Line.closer)
    (h : Line.mark? line = none) : draft.collect line = draft.add line := by
  rw [Line.mark?] at h
  rw [collect, Line.read, ho]
  dsimp only
  cases hh : Line.header? line with
  | some part =>
    rw [hh] at h
    cases h
  | none =>
    rw [hh] at h
    cases hm : Keyword.argument? Line.memoryWord line with
    | some text =>
      rw [hm] at h
      cases h
    | none => rw [if_neg hc]

end Draft

end ScreenScript
