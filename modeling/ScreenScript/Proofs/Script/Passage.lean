import ScreenScript.Proofs.Script.Reading
import ScreenScript.Proofs.Script.Significant
import Mathlib.Data.List.Infix

/-!
# The meaning of a script

A script consists of passages: single lines, and blocks that run from a line that opens a step to the
next line that says `end`. Every passage has a meaning of its own, and the tasks of a script are those
of its passages. Nothing leaks from one block into another, and no line outside all blocks becomes part
of a step.

* `Passage.all` — the passages of a script
* `Passage.linesUnder` — the lines of a block that belong to one of its parts
* `Passage.tasks` — what passages mean
* `Compilation.tasks_eq_passages` — a script that compiles means what its passages mean
-/

namespace ScreenScript

/-- A part of a script. -/
inductive Passage
  /-- a line outside all blocks -/
  | single (line : Text)
  /-- a step of this kind and name, with the lines up to its end -/
  | block (kind : StepKind) (name : Text) (body : List Text)
  deriving DecidableEq, Repr

namespace Passage

/-! ## Passages and their meaning -/

/-- Whether a line does not end a block. -/
def staysInside (line : Text) : Bool := line.lower ≠ Line.closer

/-- The passages of some lines. -/
def all : List Text → List Passage
  | [] => []
  | line :: rest =>
    match Line.opening? line with
    | none => single line :: all rest
    | some (kind, name) =>
      block kind name (rest.takeWhile staysInside) :: all (rest.dropWhile staysInside).tail
termination_by lines => lines.length
decreasing_by
  · exact Nat.lt_succ_self _
  · rw [List.length_tail]
    have := (List.dropWhile_suffix (l := rest) staysInside).length_le
    simp only [List.length_cons]
    omega

/-- The part that the last line begins, among those that begin one. -/
def lastMark? (lines : List Text) : Option Part := (lines.filterMap Line.mark?).getLast?

/-- The lines of a block that belong to a part: they begin no part themselves, and the last line before
them that begins a part begins this one. -/
def linesUnder (part : Part) (body : List Text) : List Text :=
  (List.range body.length).filterMap fun i =>
    body[i]?.filter fun line => (Line.mark? line).isNone && lastMark? (body.take i) = some part

/-- The task of a passage. -/
def task? (maxRepeats : Int) (isLast : Bool) : Passage → Option Task
  | single line => (Command.ofLine line).task?
  | block kind name body =>
    some (.screen
      { step :=
          { name
            assertions := linesUnder .assertions body
            actions := linesUnder .actions body
            isLast }
        kind
        maxRepeats })

/-- The tasks of some passages, with no step marked as the last one. -/
def unmarkedTasks (maxRepeats : Int) (passages : List Passage) : List Task :=
  passages.flatMap fun passage => (passage.task? maxRepeats false).toList

/-- Whether a passage is a block. -/
def isBlock : Passage → Bool
  | block .. => true
  | single _ => false

/-- The tasks of some passages; a block behind which no other one comes is the last one. -/
def tasks (maxRepeats : Int) : List Passage → List Task
  | [] => []
  | passage :: rest =>
    (passage.task? maxRepeats (!rest.any isBlock)).toList ++ tasks maxRepeats rest

@[simp] theorem unmarkedTasks_nil (maxRepeats : Int) : unmarkedTasks maxRepeats [] = [] := rfl

theorem unmarkedTasks_cons (maxRepeats : Int) (passage : Passage) (rest : List Passage) :
    unmarkedTasks maxRepeats (passage :: rest) =
      (passage.task? maxRepeats false).toList ++ unmarkedTasks maxRepeats rest :=
  List.flatMap_cons

@[simp] theorem all_nil : all [] = [] := by rw [all]

theorem all_cons_of_inner {line : Text} {rest : List Text} (h : Line.opening? line = none) :
    all (line :: rest) = single line :: all rest := by
  rw [all, h]

theorem all_cons_of_opening {line name : Text} {kind : StepKind} {rest : List Text}
    (h : Line.opening? line = some (kind, name)) :
    all (line :: rest) =
      block kind name (rest.takeWhile staysInside) :: all (rest.dropWhile staysInside).tail := by
  rw [all, h]

/-! ## Lines under a header -/

/-- One more line that begins a part. -/
theorem lastMark?_concat_of_mark {lines : List Text} {line : Text} {part : Part}
    (h : Line.mark? line = some part) : lastMark? (lines ++ [line]) = some part := by
  simp [lastMark?, List.filterMap_append, h]

/-- One more line that begins none. -/
theorem lastMark?_concat_of_content {lines : List Text} {line : Text} (h : Line.mark? line = none) :
    lastMark? (lines ++ [line]) = lastMark? lines := by
  simp [lastMark?, List.filterMap_append, h]

/-- One more line of a block: whether it belongs to a part is settled by the lines before it. -/
theorem linesUnder_concat (part : Part) (body : List Text) (line : Text) :
    linesUnder part (body ++ [line]) =
      linesUnder part body ++
        (if Line.mark? line = none ∧ lastMark? body = some part then [line] else []) := by
  have hold : ∀ i ∈ List.range body.length,
      (body ++ [line])[i]?.filter (fun l =>
        (Line.mark? l).isNone && lastMark? ((body ++ [line]).take i) = some part) =
      body[i]?.filter fun l =>
        (Line.mark? l).isNone && lastMark? (body.take i) = some part := by
    intro i hi
    have hlt : i < body.length := List.mem_range.1 hi
    rw [List.getElem?_append_left hlt, List.take_append_of_le_length (Nat.le_of_lt hlt)]
  rw [linesUnder, List.length_append, List.length_singleton, List.range_succ, List.filterMap_append,
    List.filterMap_congr hold, ← linesUnder]
  congr 1
  by_cases h : Line.mark? line = none ∧ lastMark? body = some part
  · rw [if_pos h, List.filterMap_cons, List.getElem?_concat_length, List.take_left]
    simp [Option.filter, h.1, h.2]
  · rw [if_neg h]
    simpa using h

theorem linesUnder_concat_of_mark {part next : Part} {body : List Text} {line : Text}
    (h : Line.mark? line = some next) : linesUnder part (body ++ [line]) = linesUnder part body := by
  rw [linesUnder_concat, if_neg (by simp [h]), List.append_nil]

end Passage

/-! ## Reading a block -/

namespace Draft

variable {maxRepeats : Int} {draft next : Draft} {kind : StepKind} {name line : Text}
  {done : List Task} {body : List Text}

/-- What is collected of the open step is what its lines so far put under the headers. -/
structure Collects (kind : StepKind) (name : Text) (done : List Task) (body : List Text)
    (draft : Draft) : Prop where
  opened : draft.opened = some kind
  name : draft.name = name
  tasks : draft.tasks = done
  part : draft.part = (Passage.lastMark? body).getD .preamble
  assertions : draft.assertions = Passage.linesUnder .assertions body
  actions : draft.actions = Passage.linesUnder .actions body

theorem collects_start (draft : Draft) (kind : StepKind) (name : Text) :
    Collects kind name draft.tasks [] (draft.start kind name) :=
  ⟨rfl, rfl, rfl, rfl, rfl, rfl⟩

/-- What a line without a keyword adds to the assertions and actions. -/
theorem assertions_add :
    (draft.add line).assertions = draft.assertions ++ (if draft.part = .assertions then [line] else []) := by
  rw [add]
  cases h : draft.part <;> simp

theorem actions_add :
    (draft.add line).actions = draft.actions ++ (if draft.part = .actions then [line] else []) := by
  rw [add]
  cases h : draft.part <;> simp

/-- Collecting one more line of the block. -/
theorem Collects.collect (h : Collects kind name done body draft) (ho : Line.opening? line = none)
    (hc : line.lower ≠ Line.closer) :
    Collects kind name done (body ++ [line]) (draft.collect line) := by
  have hopened : (draft.collect line).opened = some kind := opened_collect.trans h.opened
  have hname : (draft.collect line).name = name := name_collect.trans h.name
  have htasks : (draft.collect line).tasks = done := tasks_collect.trans h.tasks
  cases hm : Line.mark? line with
  | some part =>
    obtain ⟨hpart, hassertions, hactions⟩ : (draft.collect line).part = part ∧
        (draft.collect line).assertions = draft.assertions ∧
        (draft.collect line).actions = draft.actions := collect_of_mark ho hm
    refine ⟨hopened, hname, htasks, ?_, ?_, ?_⟩
    · rw [hpart, Passage.lastMark?_concat_of_mark hm]
      rfl
    · rw [hassertions, h.assertions, Passage.linesUnder_concat_of_mark hm]
    · rw [hactions, h.actions, Passage.linesUnder_concat_of_mark hm]
  | none =>
    have hadd : draft.collect line = draft.add line := collect_of_content ho hc hm
    have hpart : ∀ part : Part, part ≠ .preamble →
        (draft.part = part ↔ Passage.lastMark? body = some part) := by
      intro part hne
      rw [h.part]
      cases Passage.lastMark? body with
      | none => simp [Ne.symm hne]
      | some part' => simp
    refine ⟨hopened, hname, htasks, ?_, ?_, ?_⟩
    · rw [hadd, part_add, h.part, Passage.lastMark?_concat_of_content hm]
    · rw [hadd, assertions_add, h.assertions, Passage.linesUnder_concat]
      simp [hm, hpart .assertions (by decide)]
    · rw [hadd, actions_add, h.actions, Passage.linesUnder_concat]
      simp [hm, hpart .actions (by decide)]

/-- If lines leave no step open, they close the open one. What comes before its end is collected, and
what comes behind it is read with the task of the block added. -/
theorem Collects.readAll {lines : List SignificantLine} {final : Draft}
    (h : Collects kind name done body draft) (hr : draft.readAll maxRepeats lines = .ok final)
    (hf : final.opened = none) :
    ∃ inner closer after, lines = inner ++ closer :: after ∧
      (∀ line ∈ inner, line.text.lower ≠ Line.closer) ∧ closer.text.lower = Line.closer ∧
      ∃ closed : Draft, closed.opened = none ∧
        closed.tasks = done ++ ((Passage.block kind name (body ++ inner.map (·.text))).task?
          maxRepeats false).toList ∧
        closed.readAll maxRepeats after = .ok final := by
  induction lines generalizing draft body with
  | nil =>
    obtain rfl := Except.ok.inj hr
    rw [h.opened] at hf
    cases hf
  | cons line rest ih =>
    by_cases hc : line.text.lower = Line.closer
    · rw [readAll_cons_of_ok (readLine_of_closer hc h.opened)] at hr
      refine ⟨[], line, rest, rfl, by simp, hc, draft.close kind maxRepeats, rfl, ?_, hr⟩
      simp [close, h.name, h.tasks, h.assertions, h.actions, Passage.task?]
    · have hopen : draft.opened.isSome = true := by rw [h.opened]; rfl
      cases ho : Line.opening? line.text with
      | some step =>
        rw [readAll_cons_of_error (readLine_of_opening_inside ho hopen)] at hr
        cases hr
      | none =>
        rw [readAll_cons_of_ok (readLine_of_inner_inside ho hc hopen)] at hr
        obtain ⟨inner, closer, after, hlines, hinner, hcloser, closed, hclosed, htasks, hafter⟩ :=
          ih (h.collect ho hc) hr
        refine ⟨line :: inner, closer, after, by rw [hlines, List.cons_append], ?_, hcloser, closed,
          hclosed, ?_, hafter⟩
        · intro l hmem
          rcases List.mem_cons.1 hmem with rfl | hmem
          · exact hc
          · exact hinner l hmem
        · rw [htasks, List.append_assoc]
          rfl

end Draft

/-! ## Reading a script -/

namespace Passage

/-- The passages of lines that begin with a block. -/
theorem all_of_block {line name closer : Text} {kind : StepKind} {inner after : List Text}
    (ho : Line.opening? line = some (kind, name)) (hinner : ∀ l ∈ inner, l.lower ≠ Line.closer)
    (hc : closer.lower = Line.closer) :
    all (line :: (inner ++ closer :: after)) = block kind name inner :: all after := by
  have hstays : ∀ l ∈ inner, staysInside l = true := by
    intro l hmem
    simpa [staysInside] using hinner l hmem
  have hends : ¬ staysInside closer = true := by simp [staysInside, hc]
  rw [all_cons_of_opening ho, List.takeWhile_append_of_pos hstays, List.takeWhile_cons_of_neg hends,
    List.dropWhile_append_of_pos hstays, List.dropWhile_cons_of_neg hends, List.append_nil, List.tail_cons]

end Passage

/-- Where no step is open before or after, lines add the tasks of their passages, none of them marked. -/
theorem Draft.tasks_readAll {maxRepeats : Int} {draft final : Draft} {lines : List SignificantLine}
    (hr : draft.readAll maxRepeats lines = .ok final) (hd : draft.opened = none)
    (hf : final.opened = none) :
    final.tasks = draft.tasks ++
      Passage.unmarkedTasks maxRepeats (Passage.all (lines.map (·.text))) := by
  -- a block takes several lines at once, so the induction is on how many there are
  induction hn : lines.length using Nat.strong_induction_on generalizing draft lines with
  | _ n ih =>
    subst hn
    cases lines with
    | nil =>
      obtain rfl := Except.ok.inj hr
      simp
    | cons line rest =>
      cases ho : Line.opening? line.text with
      | none =>
        have hc : line.text.lower ≠ Line.closer := by
          intro hc
          rw [readAll_cons_of_error (readLine_of_closer_outside hc hd)] at hr
          cases hr
        obtain ⟨next, hnext, hopened, htasks⟩ := readLine_of_inner_outside line.raw ho hc hd
        rw [readAll_cons_of_ok hnext] at hr
        rw [ih rest.length (Nat.lt_succ_self _) hr hopened rfl, htasks, List.map_cons,
          Passage.all_cons_of_inner ho, Passage.unmarkedTasks_cons, List.append_assoc]
        rfl
      | some step =>
        obtain ⟨kind, name⟩ := step
        rw [readAll_cons_of_ok (readLine_of_opening ho hd)] at hr
        obtain ⟨inner, closer, after, rfl, hinner, hcloser, closed, hclosed, htasks, hafter⟩ :=
          (collects_start draft kind name).readAll hr hf
        have hlt : after.length < (line :: (inner ++ closer :: after)).length := by
          simp only [List.length_cons, List.length_append]
          omega
        have htexts : ∀ t ∈ inner.map (·.text), t.lower ≠ Line.closer := by
          simpa using hinner
        rw [ih after.length hlt hafter hclosed rfl, htasks, List.map_cons, List.map_append,
          List.map_cons, Passage.all_of_block ho htexts hcloser, Passage.unmarkedTasks_cons,
          List.append_assoc, List.nil_append]

/-- What a single command can ask for: a task of its own, something with a package, a wait of as many seconds
as were read, or a description. -/
theorem Command.cases_of_task? {line : Text} {task : Task} (h : (ofLine line).task? = some task) :
    (∃ entry ∈ words, task = entry.2) ∨ (∃ entry ∈ packageWords, ∃ package, task = entry.2 package) ∨
      (∃ argument seconds, Text.readInt? argument = some seconds ∧ task = .wait (.int seconds)) ∨
      ∃ text, task = .description text := by
  rw [ofLine] at h
  split at h
  · next found hfound =>
    obtain rfl := Option.some.inj h
    obtain ⟨entry, hentry, rfl⟩ := Option.map_eq_some_iff.1 hfound
    exact .inl ⟨entry, List.mem_of_find?_eq_some hentry, rfl⟩
  · split at h
    · next found hfound =>
      obtain rfl := Option.some.inj h
      obtain ⟨entry, hmem, hentry⟩ := List.exists_of_findSome?_eq_some hfound
      obtain ⟨package, -, rfl⟩ := Option.map_eq_some_iff.1 hentry
      exact .inr (.inl ⟨entry, hmem, package, rfl⟩)
    · split at h
      · split at h
        · next seconds hseconds =>
          obtain rfl := Option.some.inj h
          exact .inr (.inr (.inl ⟨_, seconds, hseconds, rfl⟩))
        · cases h
      · split at h
        · obtain rfl := Option.some.inj h
          exact .inr (.inr (.inr ⟨_, rfl⟩))
        · cases h

/-- A single command is no step. -/
theorem Command.isScreen_of_task? {line : Text} {task : Task} (h : (ofLine line).task? = some task) :
    task.isScreen = false := by
  have hwords : ∀ entry ∈ words, entry.2.isScreen = false := by decide
  have hpackages : ∀ entry ∈ packageWords, ∀ package, (entry.2 package).isScreen = false := by
    simp [packageWords, Task.isScreen]
  rcases cases_of_task? h with ⟨entry, hentry, rfl⟩ | ⟨entry, hentry, package, rfl⟩ |
    ⟨argument, seconds, -, rfl⟩ | ⟨text, rfl⟩
  · exact hwords entry hentry
  · exact hpackages entry hentry package
  · rfl
  · rfl

/-- A task in front that is no step does not matter to the mark. -/
theorem Task.markLast_cons_of_not_isScreen {task : Task} {rest : List Task}
    (h : task.isScreen = false) : markLast (task :: rest) = task :: markLast rest := by
  rw [markLast]
  split
  · rfl
  · next hany =>
    have hlast : task.asLast = task := by
      cases task <;> first | rfl | cases h
    rw [hlast, markLast_of_not_any (by simpa using hany)]

namespace Passage

/-- Steps come from blocks and from nothing else. -/
theorem any_isScreen (maxRepeats : Int) (passages : List Passage) :
    (unmarkedTasks maxRepeats passages).any Task.isScreen = passages.any isBlock := by
  induction passages with
  | nil => rfl
  | cons passage rest ih =>
    rw [unmarkedTasks_cons, List.any_append, ih, List.any_cons]
    congr 1
    cases passage with
    | block kind name body => rfl
    | single line =>
      cases hc : (Command.ofLine line).task? with
      | none => simp [task?, hc, isBlock]
      | some task => simp [task?, hc, isBlock, Command.isScreen_of_task? hc]

/-- Marking the last step is giving the last block its mark. -/
theorem markLast_unmarkedTasks (maxRepeats : Int) (passages : List Passage) :
    Task.markLast (unmarkedTasks maxRepeats passages) = tasks maxRepeats passages := by
  induction passages with
  | nil => rfl
  | cons passage rest ih =>
    rw [unmarkedTasks_cons, tasks, ← ih]
    cases passage with
    | block kind name body =>
      change Task.markLast (Task.screen _ :: unmarkedTasks maxRepeats rest) = Task.screen _ :: _
      rw [Task.markLast, any_isScreen]
      cases hb : rest.any isBlock with
      | true => rfl
      | false =>
        have hnone : (unmarkedTasks maxRepeats rest).any Task.isScreen = false := by
          rw [any_isScreen, hb]
        rw [Task.markLast_of_not_any hnone]
        rfl
    | single line =>
      cases hc : (Command.ofLine line).task? with
      | none => simp [task?, hc]
      | some task =>
        simp only [task?, hc, Option.toList_some, List.singleton_append]
        exact Task.markLast_cons_of_not_isScreen (Command.isScreen_of_task? hc)

end Passage

namespace Compilation

/-- **The meaning of a script.** If a script compiles, its tasks are those of the passages of its
significant lines: single commands outside all blocks, and one step for each block. -/
theorem tasks_eq_passages {stream : DigitStream} {drawn : Nat} {maxRepeats : Int} {lines : List Text}
    {tasks : List Task} (h : (ofLines stream drawn maxRepeats lines).result = .ok tasks) :
    ∃ significant, SignificantLine.all? stream drawn lines = some significant ∧
      tasks = Passage.tasks maxRepeats (Passage.all (significant.map (·.text))) := by
  obtain ⟨significant, hs⟩ := exists_all?_of_scan (error_scan_of_result h)
  refine ⟨significant, hs, ?_⟩
  rw [result_ofLines hs] at h
  cases hr : Draft.readAll maxRepeats {} significant with
  | error error =>
    rw [hr] at h
    cases h
  | ok final =>
    rw [hr] at h
    change final.finish = .ok tasks at h
    rw [Draft.finish] at h
    split at h
    · cases h
    · next hopen =>
      obtain rfl := Except.ok.inj h
      have hf : final.opened = none := by simpa using hopen
      rw [Draft.tasks_readAll hr rfl hf, List.nil_append, Passage.markLast_unmarkedTasks]

/-- A header and a command do not count where they do not belong. -/
theorem tasks_eq_passages_of_misplaced_lines :
    (ofLines (fun _ => 7) 0 10 ["actions:".toList, " Step A%randomNumber2%".toList, "home".toList,
        "Actions:".toList, "back".toList, "END".toList, "back".toList]).result =
      .ok [.screen { step := ⟨"A77".toList, [], ["back".toList], true⟩ }, .back] ∧
    ∃ significant, SignificantLine.all? (fun _ => 7) 0 ["actions:".toList,
        " Step A%randomNumber2%".toList, "home".toList, "Actions:".toList, "back".toList,
        "END".toList, "back".toList] = some significant ∧
      [.screen { step := ⟨"A77".toList, [], ["back".toList], true⟩ }, .back] =
        Passage.tasks 10 (Passage.all (significant.map (·.text))) := by
  have h : (ofLines (fun _ => 7) 0 10 ["actions:".toList, " Step A%randomNumber2%".toList,
      "home".toList, "Actions:".toList, "back".toList, "END".toList, "back".toList]).result =
        .ok [.screen { step := ⟨"A77".toList, [], ["back".toList], true⟩ }, .back] := Eq.refl _
  exact ⟨h, tasks_eq_passages h⟩

end Compilation

end ScreenScript
