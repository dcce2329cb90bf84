import ScreenScript.Launch
import ScreenScript.Proofs.Config.Store
import ScreenScript.Proofs.Disk.Access
import ScreenScript.Proofs.Script.Announcement
import ScreenScript.Proofs.Script.Source

/-!
# What a run is given

Everything before a run only reads and writes files: nothing happens outside, wherever it breaks off. It ends
with what a run needs just if the workspace is made ready, both configurations are loaded, the script and its
macros can be read, and what they expand to compiles.

* `Launch.quiet_prepare`, `Launch.quiet_openSession` — nothing happens outside
* `Launch.Provides` — the steps before a run, each of which has gone well
* `Launch.prepare_yields_iff` — there is a run just if they have
* `Launch.Provides.announced` — then every task of the run can be announced
-/

namespace ScreenScript

/-! ## Configuration -/

namespace ConfigKind

variable {α : Type}

theorem quiet_load (kind : ConfigKind α) (path : Path) : (kind.load path).Quiet := by
  refine Routine.emits_bind (silent_isUnset path).emits fun unset => ?_
  cases unset with
  | true =>
    refine Routine.emits_bind (Disk.quiet_ensureFolder _) fun _ => ?_
    refine Routine.emits_bind (Disk.quiet_writeText path _) fun _ => ?_
    exact Routine.emits_bind Routine.silent_say.emits fun _ => Routine.silent_pure.emits
  | false =>
    refine Routine.emits_bind (Disk.silent_readText path).emits fun text => ?_
    split
    · exact Routine.silent_pure.emits
    · exact Routine.silent_fail.emits

/-- What is loaded is the default, or what a text stands for. -/
theorem eq_default_or_of_load {kind : ConfigKind α} {path : Path} {disk final : Disk} {config : α}
    {events : List Event} (h : (kind.load path).Yields disk config final events) :
    config = kind.default ∨ ∃ text, kind.ofText text = .valid config := by
  obtain ⟨unset, _, _, _, -, hloaded, -⟩ := Routine.yields_bind.1 h
  cases unset with
  | true =>
    obtain ⟨_, _, _, _, -, hwriting, -⟩ := Routine.yields_bind.1 hloaded
    obtain ⟨_, _, _, _, -, hsaying, -⟩ := Routine.yields_bind.1 hwriting
    obtain ⟨_, hpure⟩ := Routine.silent_say.of_bind hsaying
    exact .inl (Routine.yields_pure.1 hpure).1
  | false =>
    obtain ⟨text, hread⟩ := (Disk.silent_readText path).of_bind hloaded
    split at hread
    · next hvalid =>
      obtain ⟨rfl, -⟩ := Routine.yields_pure.1 hread
      exact .inr ⟨text, hvalid⟩
    · exact absurd hread Routine.yields_fail

end ConfigKind

theorem Intervals.writable_of_load {path : Path} {disk final : Disk} {intervals : Intervals}
    {events : List Event} (h : (ConfigKind.intervals.load path).Yields disk intervals final events) :
    Text.Writable intervals.maxRepeats := by
  rcases ConfigKind.eq_default_or_of_load h with rfl | ⟨text, htext⟩
  · exact Text.writable_of_lt (by decide +kernel)
  · exact writable_of_ofText htext

theorem Workspace.quiet_prepare (folder : Path) : (Workspace.prepare folder).Quiet := by
  refine Routine.emits_bind (Disk.quiet_ensureFolder _) fun _ => ?_
  refine Routine.emits_bind (Disk.quiet_ensureFolder _) fun _ => ?_
  refine Routine.emits_bind (Disk.quiet_ensureFolder _) fun _ => ?_
  refine Routine.emits_bind (ConfigKind.credentials.quiet_load _) fun _ => ?_
  refine Routine.emits_bind (ConfigKind.intervals.quiet_load _) fun _ => ?_
  refine Routine.emits_bind (Disk.silent_checkExists _).emits fun there => ?_
  split
  · exact Routine.silent_pure.emits
  · exact Disk.quiet_touchFile _

/-! ## Everything before the run -/

namespace Launch

variable {settings : Settings} {digits : DigitStream} {disk final : Disk} {prepared : Prepared}
  {events : List Event}

theorem quiet_openSink (stamp : Stamp) (path : Path) : (Journal.openSink stamp path).Quiet := by
  refine Routine.emits_bind Routine.silent_get.emits fun _ => ?_
  refine Routine.emits_bind Routine.silent_ofExcept.emits fun _ => ?_
  exact Routine.emits_bind (Disk.quiet_ensureFolder _) fun _ => Disk.quiet_ensureFile _

theorem quiet_openSession (folder : Path) (stamp : Stamp) : (openSession folder stamp).Quiet := by
  refine Routine.emits_bind (Disk.quiet_ensureFolder folder) fun _ => ?_
  exact Routine.emits_bind (quiet_openSink stamp _) fun _ => Routine.silent_say.emits

theorem quiet_loadConfig (folder : Path) : (loadConfig folder).Quiet := by
  refine Routine.emits_bind (Workspace.quiet_prepare folder) fun _ => ?_
  refine Routine.emits_bind (ConfigKind.credentials.quiet_load _) fun _ => ?_
  exact Routine.emits_bind (ConfigKind.intervals.quiet_load _) fun _ => Routine.silent_pure.emits

theorem silent_compile (maxRepeats : Int) : (compile settings digits maxRepeats).Silent :=
  Source.silent_compileFile

/-- Nothing happens outside before the run. -/
theorem quiet_prepare (settings : Settings) (digits : DigitStream) : (prepare settings digits).Quiet := by
  refine Routine.emits_bind (Routine.emits_attempt (quiet_loadConfig _)) fun config => ?_
  cases config with
  | error message => exact Routine.emits_bind Routine.silent_say.emits fun _ => Routine.silent_pure.emits
  | ok config =>
    refine Routine.emits_bind Routine.silent_say.emits fun _ => ?_
    refine Routine.emits_bind Routine.silent_say.emits fun _ => ?_
    refine Routine.emits_bind ((silent_compile _).attempt _).emits fun tasks => ?_
    cases tasks with
    | error message => exact Routine.emits_bind Routine.silent_say.emits fun _ => Routine.silent_pure.emits
    | ok tasks =>
      exact Routine.emits_bind (Disk.silent_readText _).emits fun _ => Routine.silent_pure.emits

/-- Everything before a run goes well: the workspace is made ready, both configurations are loaded, and the
script with its macros expanded compiles. The disk that this leaves is not changed by reading the script. -/
structure Provides (settings : Settings) (digits : DigitStream) (disk : Disk) (prepared : Prepared)
    (final : Disk) : Prop where
  /-- the folders and files of the workspace are made, and the configurations are loaded -/
  configured : ∃ made between,
    (Workspace.prepare settings.folder).Yields disk () made [] ∧
    (ConfigKind.credentials.load (Workspace.credentialsFile settings.folder)).Yields made
      prepared.credentials between [] ∧
    (ConfigKind.intervals.load (Workspace.intervalsFile settings.folder)).Yields between
      prepared.intervals final []
  /-- the script can be read -/
  script : (Disk.readText settings.script final).result = .ok prepared.script
  /-- the macros can be read, and what the script expands to compiles -/
  compiled : ∃ table lines, (Source.loadMacros settings.macros final).result = .ok table ∧
    table.expand prepared.script.lines = .ok lines ∧
    (Compilation.ofLines digits 0 prepared.intervals.maxRepeats lines).result = .ok prepared.tasks

/-- Where everything goes well, every task can be announced: no number in it is too long to be shown. -/
theorem Provides.announced (h : Provides settings digits disk prepared final) :
    ∀ task ∈ prepared.tasks, task.Announced := by
  obtain ⟨_, _, -, -, hintervals⟩ := h.configured
  obtain ⟨table, lines, -, -, htasks⟩ := h.compiled
  exact Compilation.announced_of_result (Intervals.writable_of_load hintervals) htasks

theorem loadConfig_yields_iff {folder : Path} {credentials : Credentials} {intervals : Intervals} :
    (loadConfig folder).Yields disk (credentials, intervals) final [] ↔ ∃ made between,
      (Workspace.prepare folder).Yields disk () made [] ∧
      (ConfigKind.credentials.load (Workspace.credentialsFile folder)).Yields made credentials between [] ∧
      (ConfigKind.intervals.load (Workspace.intervalsFile folder)).Yields between intervals final [] := by
  simp only [loadConfig, Routine.yields_bind]
  constructor
  · rintro ⟨_, made, _, _, hmade, ⟨_, between, _, _, hcredentials, ⟨_, _, _, _, hintervals, hpure, -⟩, -⟩, -⟩
    obtain ⟨heq, rfl, -⟩ := Routine.yields_pure.1 hpure
    obtain ⟨rfl, rfl⟩ := Prod.mk.inj heq
    exact ⟨made, between, (Workspace.quiet_prepare _).yields_nil hmade,
      (ConfigKind.quiet_load _ _).yields_nil hcredentials,
      (ConfigKind.quiet_load _ _).yields_nil hintervals⟩
  · rintro ⟨made, between, hmade, hcredentials, hintervals⟩
    exact ⟨(), made, [], [], hmade, ⟨credentials, between, [], [], hcredentials,
      ⟨intervals, final, [], [], hintervals, Routine.yields_pure.2 ⟨rfl, rfl, rfl⟩, rfl⟩, rfl⟩, rfl⟩

/-- What a run is given comes of steps that have all gone well. -/
theorem Provides.of_prepare (h : (prepare settings digits).Yields disk (some prepared) final events) :
    Provides settings digits disk prepared final := by
  obtain ⟨config, loaded, _, _, hconfig, hbehind, -⟩ := Routine.yields_bind.1 h
  rcases Routine.yields_attempt.1 hconfig with ⟨⟨credentials, intervals⟩, rfl, hload⟩ |
    ⟨fault, message, rfl, -⟩
  · obtain ⟨_, hsaid⟩ := Routine.silent_say.of_bind hbehind
    obtain ⟨_, hcompiling⟩ := Routine.silent_say.of_bind hsaid
    obtain ⟨tasks, compiled, _, _, hattempt, hcompiled, -⟩ := Routine.yields_bind.1 hcompiling
    rcases Routine.yields_attempt.1 hattempt with ⟨tasks, rfl, hcompile⟩ | ⟨fault, message, rfl, -⟩
    · obtain ⟨hcompile, rfl, -⟩ := (silent_compile _).yields_iff.1 hcompile
      obtain ⟨script, read, _, _, hscript, hpure, -⟩ := Routine.yields_bind.1 hcompiled
      obtain ⟨hscript, rfl, -⟩ := (Disk.silent_readText _).yields_iff.1 hscript
      obtain ⟨heq, rfl, -⟩ := Routine.yields_pure.1 hpure
      obtain rfl := Option.some.inj heq
      obtain ⟨text, table, lines, htext, htable, hlines, htasks⟩ :=
        Source.result_compileFile_iff.1 hcompile
      -- the script is read a second time, and nothing has changed it
      obtain rfl : text = script := Except.ok.inj (htext.symm.trans hscript)
      exact ⟨loadConfig_yields_iff.1 ((quiet_loadConfig _).yields_nil hload), hscript, table, lines, htable,
        hlines, htasks⟩
    · obtain ⟨_, hnone⟩ := Routine.silent_say.of_bind hcompiled
      obtain ⟨heq, -⟩ := Routine.yields_pure.1 hnone
      cases heq
  · obtain ⟨_, hnone⟩ := Routine.silent_say.of_bind hbehind
    obtain ⟨heq, -⟩ := Routine.yields_pure.1 hnone
    cases heq

/-- If every step goes well, there is a run. -/
theorem Provides.prepare_yields (h : Provides settings digits disk prepared final) :
    (prepare settings digits).Yields disk (some prepared) final [] := by
  obtain ⟨hconfigured, hscript, table, lines, htable, hlines, htasks⟩ := h
  have hload := loadConfig_yields_iff.2 hconfigured
  have hcompile : (compile settings digits prepared.intervals.maxRepeats).Yields final prepared.tasks
      final [] := (silent_compile _).yields_iff.2
    ⟨Source.result_compileFile_iff.2 ⟨_, table, lines, hscript, htable, hlines, htasks⟩, rfl, rfl⟩
  rw [prepare, Routine.yields_bind]
  refine ⟨.ok (prepared.credentials, prepared.intervals), final, [], [],
    Routine.yields_attempt.2 (.inl ⟨_, rfl, hload⟩), ?_, rfl⟩
  refine Routine.yields_bind.2 ⟨(), final, [], [], Routine.yields_say.2 ⟨rfl, rfl⟩, ?_, rfl⟩
  refine Routine.yields_bind.2 ⟨(), final, [], [], Routine.yields_say.2 ⟨rfl, rfl⟩, ?_, rfl⟩
  refine Routine.yields_bind.2 ⟨.ok prepared.tasks, final, [], [],
    Routine.yields_attempt.2 (.inl ⟨_, rfl, hcompile⟩), ?_, rfl⟩
  exact Routine.yields_bind.2 ⟨prepared.script, final, [], [],
    (Disk.silent_readText _).yields_iff.2 ⟨hscript, rfl, rfl⟩, Routine.yields_pure.2 ⟨rfl, rfl, rfl⟩, rfl⟩

/-- Everything before a run ends with what it needs just if it goes well. -/
theorem prepare_yields_iff :
    (prepare settings digits).Yields disk (some prepared) final events ↔
      events = [] ∧ Provides settings digits disk prepared final := by
  constructor
  · intro h
    exact ⟨h.trace.symm.trans ((quiet_prepare settings digits).trace_eq disk), .of_prepare h⟩
  · rintro ⟨rfl, h⟩
    exact h.prepare_yields

end Launch

end ScreenScript
