import ScreenScript.Proofs.Script.Passage
import ScreenScript.Proofs.Text.Figures

/-!
# Tasks that can be announced

Every task is announced before it is carried out. That could only break off at a number with too many
digits, but a script has none: what a command waits was read from its line, and how often a step is repeated
comes from the intervals.

* `Task.Announced` — a task that can be shown in a message
* `Draft.announced_readLine` — reading a line adds no other tasks
* `Compilation.announced_of_result` — the tasks of a script that compiles
-/

namespace ScreenScript

/-- The task can be shown in a message. -/
def Task.Announced (task : Task) : Prop := ∃ shown, task.toText = .ok shown

/-! ## Single tasks -/

theorem Scalar.shown_of_writable {n : Int} (h : Text.Writable n) :
    ∃ shown, (Scalar.int n).toText = .ok shown := by
  obtain ⟨t, ht⟩ := h
  exact ⟨t, by rw [Scalar.toText, ht]⟩

theorem Task.announced_wait {n : Int} (h : Text.Writable n) : (Task.wait (.int n)).Announced := by
  obtain ⟨shown, hshown⟩ := Scalar.shown_of_writable h
  exact ⟨_, by rw [toText, hshown]; rfl⟩

theorem Task.announced_screen {task : StepTask} (h : Text.Writable task.maxRepeats) :
    (Task.screen task).Announced := by
  obtain ⟨shown, hshown⟩ := Scalar.shown_of_writable h
  exact ⟨_, by rw [toText, StepTask.toText, hshown]; rfl⟩

/-- The tasks of single commands can be announced. -/
theorem Command.announced_of_task? {line : Text} {task : Task} (h : (ofLine line).task? = some task) :
    task.Announced := by
  rcases cases_of_task? h with ⟨entry, hentry, rfl⟩ | ⟨entry, hentry, package, rfl⟩ |
    ⟨argument, seconds, hseconds, rfl⟩ | ⟨text, rfl⟩
  · simp only [words, List.mem_cons, List.not_mem_nil, or_false] at hentry
    rcases hentry with rfl | rfl | rfl | rfl <;> exact ⟨_, rfl⟩
  · simp only [packageWords, List.mem_cons, List.not_mem_nil, or_false] at hentry
    rcases hentry with rfl | rfl | rfl <;> exact ⟨_, rfl⟩
  · exact Task.announced_wait (Text.writable_of_readInt? hseconds)
  · exact ⟨_, rfl⟩

/-- Whether a step is the last one does not matter. -/
theorem Task.Announced.asLast {task : Task} (h : task.Announced) : task.asLast.Announced := by
  cases task with
  | screen task =>
    obtain ⟨shown, hshown⟩ := h
    rw [toText, StepTask.toText] at hshown
    cases hrepeats : (Scalar.int task.maxRepeats).toText with
    | ok repeats => exact ⟨_, by rw [Task.asLast, toText, StepTask.toText, hrepeats]; rfl⟩
    | error error =>
      rw [hrepeats] at hshown
      cases hshown
  | _ => exact h

theorem Task.announced_markLast {tasks : List Task} (h : ∀ task ∈ tasks, task.Announced) :
    ∀ task ∈ markLast tasks, task.Announced := by
  induction tasks with
  | nil => exact h
  | cons task rest ih =>
    obtain ⟨hfirst, hrest⟩ := List.forall_mem_cons.1 h
    rw [markLast]
    split
    · exact List.forall_mem_cons.2 ⟨hfirst, ih hrest⟩
    · exact List.forall_mem_cons.2 ⟨hfirst.asLast, hrest⟩

/-! ## Scripts -/

namespace Draft

variable {maxRepeats : Int} {draft next : Draft} {line raw : Text}

theorem announced_readStepLine (hrepeats : Text.Writable maxRepeats)
    (hdraft : ∀ task ∈ draft.tasks, task.Announced)
    (h : draft.readStepLine maxRepeats line raw = .ok next) : ∀ task ∈ next.tasks, task.Announced := by
  rw [readStepLine] at h
  split at h
  · split at h
    · cases h
    · obtain rfl := Except.ok.inj h
      exact hdraft
  · obtain rfl := Except.ok.inj h
    exact hdraft
  · obtain rfl := Except.ok.inj h
    exact hdraft
  · split at h
    · obtain rfl := Except.ok.inj h
      exact List.forall_mem_append.2 ⟨hdraft, List.forall_mem_singleton.2 (Task.announced_screen hrepeats)⟩
    · cases h
  · obtain rfl := Except.ok.inj h
    rwa [tasks_add]

/-- Reading a line adds no task that could not be announced. -/
theorem announced_readLine (hrepeats : Text.Writable maxRepeats)
    (hdraft : ∀ task ∈ draft.tasks, task.Announced)
    (h : draft.readLine maxRepeats line raw = .ok next) : ∀ task ∈ next.tasks, task.Announced := by
  rw [readLine] at h
  split at h
  · exact announced_readStepLine hrepeats hdraft h
  · split at h
    · next task hcommand =>
      obtain rfl := Except.ok.inj h
      have htask : (Command.ofLine line).task? = some task := by rw [hcommand]; rfl
      exact List.forall_mem_append.2
        ⟨hdraft, List.forall_mem_singleton.2 (Command.announced_of_task? htask)⟩
    · obtain rfl := Except.ok.inj h
      exact hdraft
    · exact announced_readStepLine hrepeats hdraft h

end Draft

namespace Compilation

variable {stream : DigitStream} {maxRepeats : Int} {draft : Draft} {drawn : Nat} {lines : List Text}

theorem announced_scan (hrepeats : Text.Writable maxRepeats)
    (hdraft : ∀ task ∈ draft.tasks, task.Announced) :
    ∀ task ∈ (scan stream maxRepeats draft drawn lines).draft.tasks, task.Announced := by
  induction lines generalizing draft drawn with
  | nil => exact hdraft
  | cons raw rest ih =>
    rw [scan]
    split
    · exact ih hdraft
    · split
      · exact hdraft
      · split
        · exact hdraft
        · next hnext => exact ih (Draft.announced_readLine hrepeats hdraft hnext)

theorem announced_finish {compilation : Compilation}
    (h : ∀ task ∈ compilation.draft.tasks, task.Announced) :
    ∀ task ∈ compilation.finish.draft.tasks, task.Announced := by
  rw [finish]
  split
  · exact h
  · dsimp only
    split
    · exact h
    · exact Task.announced_markLast h

/-- **Announcing never breaks off.** Every task of a script that compiles can be announced, if the number of
repetitions that is allowed can be written. -/
theorem announced_of_result {tasks : List Task} (hrepeats : Text.Writable maxRepeats)
    (h : (ofLines stream drawn maxRepeats lines).result = .ok tasks) : ∀ task ∈ tasks, task.Announced := by
  have hall : ∀ task ∈ (ofLines stream drawn maxRepeats lines).draft.tasks, task.Announced :=
    announced_finish (announced_scan hrepeats nofun)
  rw [result] at h
  split at h
  · cases h
  · obtain rfl := Except.ok.inj h
    exact hall

end Compilation

end ScreenScript
