import ScreenScript.Proofs.Script.Redraw

/-!
# Expanded scripts

A call of a macro stands for the lines of the macro. So an expanded script consists of pieces, the lines
of its own between two calls and the lines of the macros it calls, and its tasks are those of its pieces.
Whatever a piece leaves behind, a header outside all steps or a line that is lost, has no influence on
the next one; only the mark of the last step is set for the script as a whole.

* `MacroTable.Pieces` — the pieces of a script that calls macros
* `MacroTable.Pieces.expand_eq` — expanding it is putting them together
* `Compilation.inTurn` — pieces compiled one after the other, with digits from one stream
* `Task.remark` — tasks with the mark of the last step set anew
* `Compilation.result_of_expand` — what an expanded script compiles to
-/

namespace ScreenScript

/-! ## Pieces -/

namespace MacroTable

/-- The pieces of a script: lines without a call, and between them the lines of the macros called. -/
inductive Pieces (table : MacroTable) : List Text → List (List Text) → Prop
  /-- there is no call -/
  | own {lines : List Text} : (∀ line ∈ lines, called? line = none) → Pieces table lines [lines]
  /-- the first call is one of this macro -/
  | call {lines body rest : List Text} {line name : Text} {pieces : List (List Text)} :
    (∀ line ∈ lines, called? line = none) → called? line = some name →
    table.lookup? name = some body → Pieces table rest pieces →
    Pieces table (lines ++ line :: rest) (lines :: body :: pieces)

variable {table : MacroTable}

/-- Lines without a call stay as they are. -/
theorem expand_append {lines : List Text} (h : ∀ line ∈ lines, called? line = none)
    (rest : List Text) : table.expand (lines ++ rest) = (table.expand rest).map (lines ++ ·) := by
  induction lines with
  | nil => cases h : table.expand rest <;> simp [h, Except.map]
  | cons line lines ih =>
    obtain ⟨hline, hlines⟩ := List.forall_mem_cons.1 h
    rw [List.cons_append, expand, hline, ih hlines]
    cases table.expand rest <;> rfl

/-- Expanding a script puts its pieces together. What a macro puts in is not expanded again. -/
theorem Pieces.expand_eq {script : List Text} {pieces : List (List Text)}
    (h : table.Pieces script pieces) : table.expand script = .ok pieces.flatten := by
  induction h with
  | @own lines hlines =>
    have happend : table.expand (lines ++ []) = .ok (lines ++ []) := expand_append hlines []
    rw [List.append_nil] at happend
    rw [List.flatten_singleton, happend]
  | @call lines body rest line name pieces hlines hcall hbody _ ih =>
    rw [expand_append hlines, expand, hcall]
    dsimp only
    rw [hbody, ih]
    rfl

end MacroTable

/-! ## The mark of the last step -/

namespace Task

/-- The task with the mark of its step set or cleared. -/
def withMark (isLast : Bool) : Task → Task
  | screen task => screen { task with step := { task.step with isLast } }
  | task => task

/-- The tasks with all marks cleared and the last step marked: a step is marked if no step follows. -/
def remark : List Task → List Task
  | [] => []
  | task :: rest => task.withMark (!rest.any isScreen) :: remark rest

theorem withMark_of_not_isScreen {task : Task} {isLast : Bool} (h : task.isScreen = false) :
    task.withMark isLast = task := by
  cases task with
  | screen task => cases h
  | _ => rfl

@[simp] theorem isScreen_withMark (task : Task) (isLast : Bool) :
    (task.withMark isLast).isScreen = task.isScreen := by
  cases task <;> rfl

theorem any_isScreen_map_withMark (tasks : List Task) :
    (tasks.map (withMark false)).any isScreen = tasks.any isScreen := by
  rw [List.any_map]
  exact congrArg tasks.any (funext fun task => isScreen_withMark task false)

theorem asLast_withMark (task : Task) : (task.withMark false).asLast = task.withMark true := by
  cases task <;> rfl

theorem withMark_asLast (task : Task) : task.asLast.withMark false = task.withMark false := by
  cases task <;> rfl

/-- Marking the last step after all marks are cleared. -/
theorem markLast_map_withMark (tasks : List Task) :
    markLast (tasks.map (withMark false)) = remark tasks := by
  induction tasks with
  | nil => rfl
  | cons task rest ih =>
    rw [List.map_cons, markLast, any_isScreen_map_withMark, remark]
    -- a step behind the task takes the mark, whatever the marks were
    cases hrest : rest.any isScreen with
    | true => rw [if_pos rfl, ih]; rfl
    | false =>
      rw [if_neg Bool.false_ne_true, asLast_withMark, ← ih,
        markLast_of_not_any (by rw [any_isScreen_map_withMark, hrest])]
      rfl

/-- Clearing the marks undoes the marking. -/
theorem map_withMark_markLast (tasks : List Task) :
    (markLast tasks).map (withMark false) = tasks.map (withMark false) := by
  induction tasks with
  | nil => rfl
  | cons task rest ih =>
    rw [markLast]
    split
    · rw [List.map_cons, ih, List.map_cons]
    · rw [List.map_cons, withMark_asLast, List.map_cons]

end Task

/-- Steps whose place in the script is not known are not marked. -/
theorem Passage.map_withMark_unmarkedTasks (maxRepeats : Int) (passages : List Passage) :
    (unmarkedTasks maxRepeats passages).map (Task.withMark false) = unmarkedTasks maxRepeats passages := by
  induction passages with
  | nil => rfl
  | cons passage rest ih =>
    rw [unmarkedTasks_cons, List.map_append, ih]
    congr 1
    cases passage with
    | block kind name body => rfl
    | single line =>
      cases hc : (Command.ofLine line).task? with
      | none => simp [task?, hc]
      | some task =>
        simp only [task?, hc, Option.toList_some, List.map_singleton]
        rw [Task.withMark_of_not_isScreen (Command.isScreen_of_task? hc)]

/-! ## One piece after the other -/

namespace Draft

theorem readAll_append {maxRepeats : Int} (draft : Draft) (xs ys : List SignificantLine) :
    draft.readAll maxRepeats (xs ++ ys) =
      (draft.readAll maxRepeats xs).bind fun next => next.readAll maxRepeats ys := by
  induction xs generalizing draft with
  | nil => rfl
  | cons line rest ih =>
    rw [List.cons_append, readAll, readAll]
    cases draft.readLine maxRepeats line.text line.raw with
    | error error => rfl
    | ok next => exact ih next

/-- Tasks come from a draft in which no step is open. -/
theorem exists_of_bind_finish {read : Except ScriptError Draft} {tasks : List Task}
    (h : read.bind finish = .ok tasks) :
    ∃ final, read = .ok final ∧ final.opened = none ∧ tasks = Task.markLast final.tasks := by
  cases read with
  | error error => cases h
  | ok final =>
    change final.finish = .ok tasks at h
    rw [finish] at h
    split at h
    · cases h
    · next hopen => exact ⟨final, rfl, by simpa using hopen, (Except.ok.inj h).symm⟩

/-- What fences that are in order do where no step is open: they leave none open, whatever has been
collected before. -/
theorem exists_readAll_of_judge (maxRepeats : Int) {significant : List SignificantLine} {draft : Draft}
    (h : Fence.judge none (Fence.all significant) = .ok ()) (hd : draft.opened = none) :
    ∃ final, draft.readAll maxRepeats significant = .ok final ∧ final.opened = none := by
  have hname : draft.openName? = none := by rw [openName?, hd]; rfl
  have hjudge : ((draft.readAll maxRepeats significant).bind finish).map (fun _ => ()) = .ok () := by
    rw [judge_of_readAll, hname, h]
  cases hresult : (draft.readAll maxRepeats significant).bind finish with
  | error error =>
    rw [hresult] at hjudge
    cases hjudge
  | ok tasks =>
    obtain ⟨final, hfinal, hopened, -⟩ := exists_of_bind_finish hresult
    exact ⟨final, hfinal, hopened⟩

/-- Lines that compile give the same tasks behind others, whatever these have left, as long as no step
is open. Their last step is not marked yet. -/
theorem exists_readAll_of_finish {maxRepeats : Int} {significant : List SignificantLine}
    {tasks : List Task} {draft : Draft}
    (h : (Draft.readAll maxRepeats {} significant).bind finish = .ok tasks) (hd : draft.opened = none) :
    ∃ final, draft.readAll maxRepeats significant = .ok final ∧ final.opened = none ∧
      final.tasks = draft.tasks ++ tasks.map (Task.withMark false) := by
  obtain ⟨alone, halone, hclosed, rfl⟩ := exists_of_bind_finish h
  have hjudge : Fence.judge none (Fence.all significant) = .ok () := by
    have hjudge : ((Draft.readAll maxRepeats {} significant).bind finish).map (fun _ => ()) =
        Fence.judge none (Fence.all significant) := judge_of_readAll {} significant
    rw [h] at hjudge
    exact hjudge.symm
  obtain ⟨final, hfinal, hopened⟩ := exists_readAll_of_judge maxRepeats hjudge hd
  refine ⟨final, hfinal, hopened, ?_⟩
  calc final.tasks
    _ = draft.tasks ++ alone.tasks := by
      rw [tasks_readAll hfinal hd hopened, tasks_readAll halone rfl hclosed, List.nil_append]
    _ = draft.tasks ++ alone.tasks.map (Task.withMark false) := by
      rw [tasks_readAll halone rfl hclosed, List.nil_append, Passage.map_withMark_unmarkedTasks]
    _ = draft.tasks ++ (Task.markLast alone.tasks).map (Task.withMark false) := by
      rw [Task.map_withMark_markLast]

end Draft

namespace Compilation

variable {stream : DigitStream} {maxRepeats : Int}

/-- The lines of two scripts, one behind the other: the second takes the digits behind those that the
first has drawn. -/
theorem all?_append {draft : Draft} {drawn : Nat} {xs ys : List Text}
    {first second : List SignificantLine}
    (h : (scan stream maxRepeats draft drawn xs).error = none)
    (hfirst : SignificantLine.all? stream drawn xs = some first)
    (hsecond : SignificantLine.all? stream (scan stream maxRepeats draft drawn xs).drawn ys = some second) :
    SignificantLine.all? stream drawn (xs ++ ys) = some (first ++ second) := by
  induction xs generalizing draft drawn first with
  | nil =>
    obtain rfl := Option.some.inj hfirst
    exact hsecond
  | cons raw rest ih =>
    rw [scan] at h hsecond
    rw [List.cons_append]
    cases hraw : raw.trim.isSignificant with
    | false =>
      rw [hraw] at h hsecond
      rw [SignificantLine.all?_cons_insignificant hraw] at hfirst ⊢
      exact ih h hfirst hsecond
    | true =>
      obtain ⟨text, total, later, hs, hl, rfl⟩ := SignificantLine.all?_cons_eq_some hraw hfirst
      rw [hraw, hs] at h hsecond
      dsimp only at h hsecond
      cases hn : draft.readLine maxRepeats text raw with
      | error error =>
        rw [hn] at h
        cases h
      | ok next =>
        rw [hn] at h hsecond
        rw [SignificantLine.all?_cons_of_filled hraw hs, ih h hl hsecond]
        rfl

@[simp] theorem drawn_finish (compilation : Compilation) :
    compilation.finish.drawn = compilation.drawn := by
  rw [finish]
  split
  · rfl
  · dsimp only
    split <;> rfl

/-- A script compiles on its own, with some digits. -/
def Compiles (maxRepeats : Int) (lines : List Text) : Prop :=
  ∃ stream drawn tasks, (ofLines stream drawn maxRepeats lines).result = .ok tasks

/-- Then it compiles with all digits. -/
theorem Compiles.exists_result {lines : List Text} (h : Compiles maxRepeats lines)
    (stream : DigitStream) (drawn : Nat) :
    ∃ tasks, (ofLines stream drawn maxRepeats lines).result = .ok tasks := by
  obtain ⟨stream', drawn', tasks', hresult⟩ := h
  have halike := (alike_ofLines stream' stream drawn' drawn maxRepeats lines).result
  rcases halike.ok_or_error with ⟨_, tasks, -, htasks, -⟩ | ⟨error, _, herror, -, -⟩
  · exact ⟨tasks, htasks⟩
  · rw [hresult] at herror
    cases herror

/-- The tasks of some pieces that are compiled one after the other, each with the digits behind those
that the pieces before it have drawn. -/
def inTurn (stream : DigitStream) (maxRepeats : Int) : Nat → List (List Text) →
    Except ScriptError (List Task)
  | _, [] => .ok []
  | drawn, piece :: rest =>
    let compilation := ofLines stream drawn maxRepeats piece
    match compilation.result with
    | .error error => .error error
    | .ok tasks => (inTurn stream maxRepeats compilation.drawn rest).map (tasks ++ ·)

/-- Pieces that compile leave no step open when they are put together, and behind other lines they give
the tasks that they have on their own. -/
theorem exists_readAll_of_pieces {pieces : List (List Text)}
    (h : ∀ piece ∈ pieces, Compiles maxRepeats piece) (stream : DigitStream) (drawn : Nat) :
    ∃ tasks significant, inTurn stream maxRepeats drawn pieces = .ok tasks ∧
      SignificantLine.all? stream drawn pieces.flatten = some significant ∧
      ∀ draft : Draft, draft.opened = none → ∃ final,
        draft.readAll maxRepeats significant = .ok final ∧ final.opened = none ∧
          final.tasks = draft.tasks ++ tasks.map (Task.withMark false) := by
  -- the next piece finds whatever this one leaves, so the induction is for every draft without an open
  -- step
  induction pieces generalizing drawn with
  | nil =>
    refine ⟨[], [], rfl, rfl, fun draft hd => ⟨draft, rfl, hd, ?_⟩⟩
    rw [List.map_nil, List.append_nil]
  | cons piece rest ih =>
    obtain ⟨hpiece, hrest⟩ := List.forall_mem_cons.1 h
    obtain ⟨own, hown⟩ := hpiece.exists_result stream drawn
    obtain ⟨tasks, later, hturn, hlater, hread⟩ :=
      ih hrest (ofLines stream drawn maxRepeats piece).drawn
    have hscan := error_scan_of_result hown
    obtain ⟨significant, hs⟩ := exists_all?_of_scan hscan
    rw [ofLines, drawn_finish] at hlater
    refine ⟨own ++ tasks, significant ++ later, ?_, ?_, ?_⟩
    · rw [inTurn, hown]
      dsimp only
      rw [hturn]
      rfl
    · rw [List.flatten_cons]
      exact all?_append hscan hs hlater
    · intro draft hd
      rw [result_ofLines hs] at hown
      obtain ⟨next, hnext, hclosed, htasks⟩ := Draft.exists_readAll_of_finish hown hd
      obtain ⟨final, hfinal, hopened, hmore⟩ := hread next hclosed
      refine ⟨final, ?_, hopened, ?_⟩
      · rw [Draft.readAll_append, hnext]
        exact hfinal
      · rw [hmore, htasks, List.append_assoc, List.map_append]

/-- **What an expanded script compiles to.** If the lines of a script between its calls and the macros
that it calls compile on their own, the expanded script compiles. Its tasks are those of its pieces, one
after the other and with digits from one stream, with the last step of the whole script marked and no
other. -/
theorem result_of_expand {table : MacroTable} {script : List Text} {pieces : List (List Text)}
    (hpieces : table.Pieces script pieces) (h : ∀ piece ∈ pieces, Compiles maxRepeats piece)
    (stream : DigitStream) (drawn : Nat) :
    table.expand script = .ok pieces.flatten ∧
      ∃ tasks, inTurn stream maxRepeats drawn pieces = .ok tasks ∧
        (ofLines stream drawn maxRepeats pieces.flatten).result = .ok (Task.remark tasks) := by
  obtain ⟨tasks, significant, hturn, hs, hread⟩ := exists_readAll_of_pieces h stream drawn
  obtain ⟨final, hfinal, hopened, htasks⟩ := hread {} rfl
  refine ⟨hpieces.expand_eq, tasks, hturn, ?_⟩
  calc (ofLines stream drawn maxRepeats pieces.flatten).result
    _ = final.finish := by rw [result_ofLines hs, hfinal]; rfl
    _ = .ok (Task.markLast final.tasks) := by rw [Draft.finish, hopened]; rfl
    _ = .ok (Task.remark tasks) := by rw [htasks, List.nil_append, Task.markLast_map_withMark]

/-- A macro with a line that looks like a call of itself, and a header outside all steps. -/
def signIn : List Text :=
  ["step Code %randomNumber1%".toList, "actions:".toList, "m Sign in".toList, "end".toList,
    "actions:".toList]

/-- What comes before its call. -/
def beforeSignIn : List Text := ["step Start".toList, "end".toList, "wait %randomNumber2%".toList]

/-- What comes behind it. -/
def behindSignIn : List Text := ["tap nowhere".toList, "home".toList]

/-- A call between two other pieces. -/
theorem result_of_expand_of_signIn :
    MacroTable.ofLines ("macro Sign in".toList :: signIn ++ ["endMacro".toList]) =
      .ok [("Sign in".toList, signIn)] ∧
    MacroTable.Pieces [("Sign in".toList, signIn)] (beforeSignIn ++ " m Sign in".toList :: behindSignIn)
      [beforeSignIn, signIn, behindSignIn] ∧
    (∀ piece ∈ [beforeSignIn, signIn, behindSignIn], Compiles 10 piece) ∧
    MacroTable.expand [("Sign in".toList, signIn)] (beforeSignIn ++ " m Sign in".toList :: behindSignIn) =
      .ok [beforeSignIn, signIn, behindSignIn].flatten ∧
    ∃ tasks,
      inTurn (fun i => Fin.ofNat 10 i) 10 0 [beforeSignIn, signIn, behindSignIn] = .ok tasks ∧
      (ofLines (fun i => Fin.ofNat 10 i) 0 10 [beforeSignIn, signIn, behindSignIn].flatten).result =
        .ok (Task.remark tasks) := by
  have htable : MacroTable.ofLines ("macro Sign in".toList :: signIn ++ ["endMacro".toList]) =
      .ok [("Sign in".toList, signIn)] := by decide +kernel
  have hbefore : ∀ line ∈ beforeSignIn, MacroTable.called? line = none := by decide +kernel
  have hcall : MacroTable.called? " m Sign in".toList = some "Sign in".toList := by decide +kernel
  have hbehind : ∀ line ∈ behindSignIn, MacroTable.called? line = none := by decide +kernel
  have hpieces : MacroTable.Pieces [("Sign in".toList, signIn)]
      (beforeSignIn ++ " m Sign in".toList :: behindSignIn) [beforeSignIn, signIn, behindSignIn] :=
    .call hbefore hcall rfl (.own hbehind)
  have hcompiles : ∀ piece ∈ [beforeSignIn, signIn, behindSignIn], Compiles 10 piece := by
    have herror : ∀ piece ∈ [beforeSignIn, signIn, behindSignIn],
        (ofLines (fun _ => 0) 0 10 piece).error = none := by decide +kernel
    intro piece hmem
    refine ⟨fun _ => 0, 0, (ofLines (fun _ => 0) 0 10 piece).draft.tasks, ?_⟩
    rw [result, herror piece hmem]
  exact ⟨htable, hpieces, hcompiles, result_of_expand hpieces hcompiles (fun i => Fin.ofNat 10 i) 0⟩

end Compilation

end ScreenScript
