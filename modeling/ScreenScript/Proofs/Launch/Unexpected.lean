import ScreenScript.Proofs.Launch.Preparing
import ScreenScript.Proofs.Script.Oversize

/-!
# What is not expected before a run

What is wrong with the configuration or the script is mostly said, and then there is no run. But octets
that encode no text are not expected, and neither is a placeholder that asks for a number of digits that
is too long to be read.

* `Launch.ConfigBroken`, `Launch.ScriptBroken` — the faults that are not expected
* `Launch.Explains` — where there is no result, it has been said why
* `Launch.prepare_breaks_iff` — everything before the run breaks off with just these faults
-/

namespace ScreenScript.Launch

open Workspace

variable {stock : Stock} {folder : Path} {root : Location} {settings : Settings} {digits : DigitStream}
  {disk : Disk} {fault : Fault}

/-! ## Faults -/

/-- A configuration file encodes no text. -/
inductive ConfigBroken (folder : Path) (stock : Stock) : Fault → Prop
  | credentials {content : Content} :
    stock.content .credentials = some content → Disk.textOf? content = none →
    ConfigBroken folder stock (.undecodable (credentialsFile folder))
  | intervals {credentials : Credentials} {content : Content} :
    ConfigKind.credentials.verdict (credentialsFile folder) (stock.content .credentials) =
      .ok credentials →
    stock.content .intervals = some content → Disk.textOf? content = none →
    ConfigBroken folder stock (.undecodable (intervalsFile folder))

/-- The script or the macros encode no text, or a placeholder of the script asks for a number of digits
that is too long to be read, and nothing is wrong with the lines before it. -/
inductive ScriptBroken (settings : Settings) (digits : DigitStream) (stock : Stock) (maxRepeats : Int) :
    Fault → Prop
  | script :
    Disk.textOf? stock.script = none →
    ScriptBroken settings digits stock maxRepeats (.undecodable settings.script)
  | macros {text : Text} {content : Content} :
    Disk.textOf? stock.script = some text →
    stock.content .macros = some content → Disk.textOf? content = none →
    ScriptBroken settings digits stock maxRepeats (.undecodable settings.macros)
  | placeholder {text : Text} {table : MacroTable} {before : List Text} {raw : Text} {after : List Text} :
    Disk.textOf? stock.script = some text →
    Source.macrosVerdict settings.macros (stock.content .macros) = .ok table →
    table.expand text.lines = .ok (before ++ raw :: after) →
    (Compilation.scan digits maxRepeats {} 0 before).error = none →
    raw.trim.isSignificant = true → ¬Placeholder.Fits raw.trim →
    ScriptBroken settings digits stock maxRepeats (.script .oversizePlaceholder)

/-- Why everything before the run breaks off. -/
def Broken (settings : Settings) (digits : DigitStream) (stock : Stock) (fault : Fault) : Prop :=
  ConfigBroken settings.folder stock fault ∨
    ∃ config : Credentials × Intervals, configVerdict settings.folder stock = .ok config ∧
      ScriptBroken settings digits stock config.2.maxRepeats fault

theorem bind_eq_error {α β : Type} {x : Except Fault α} {f : α → Except Fault β} :
    x >>= f = .error fault ↔ x = .error fault ∨ ∃ a, x = .ok a ∧ f a = .error fault := by
  cases x with
  | error fault' =>
    refine ⟨fun h => .inl (by rw [Except.error.inj h]), ?_⟩
    rintro (h | ⟨a, ha, -⟩)
    · rw [Except.error.inj h]
      rfl
    · cases ha
  | ok a =>
    refine ⟨fun h => .inr ⟨a, rfl, h⟩, ?_⟩
    rintro (h | ⟨a', ha, h⟩)
    · cases h
    · obtain rfl := Except.ok.inj ha
      exact h

/-- An error in a script is not expected just if a placeholder asks for too many digits. -/
theorem stray_mapError_iff {α : Type} {x : Except ScriptError α} :
    x.mapError Fault.script = .error fault ∧ scriptFault fault = none ↔
      x = .error .oversizePlaceholder ∧ fault = .script .oversizePlaceholder := by
  cases x with
  | ok a => exact ⟨nofun, nofun⟩
  | error error =>
    constructor
    · rintro ⟨h, hstray⟩
      obtain rfl := Except.error.inj h
      cases error with
      | malformed flaw line => cases hstray
      | oversizePlaceholder => exact ⟨rfl, rfl⟩
    · rintro ⟨h, rfl⟩
      rw [h]
      exact ⟨rfl, rfl⟩

/-- What is wrong with a configuration file is not expected just if it encodes no text. -/
theorem stray_verdict_iff {α : Type} {kind : ConfigKind α} {path : Path} {content : Option Content} :
    kind.verdict path content = .error fault ∧ configurationFault fault = none ↔
      ∃ raw, content = some raw ∧ Disk.textOf? raw = none ∧ fault = .undecodable path := by
  constructor
  · rintro ⟨h, hstray⟩
    cases content with
    | none => cases h
    | some raw =>
      rw [ConfigKind.verdict] at h
      cases htext : Disk.textOf? raw with
      | none =>
        rw [htext] at h
        exact ⟨raw, rfl, htext, (Except.error.inj h).symm⟩
      | some text =>
        rw [htext] at h
        dsimp only at h
        split at h
        · cases h
        · split at h
          · cases h
          · -- what is wrong with the members is expected
            obtain rfl := Except.error.inj h
            cases hstray
  · rintro ⟨raw, rfl, htext, rfl⟩
    rw [ConfigKind.verdict, htext]
    exact ⟨rfl, rfl⟩

theorem stray_configVerdict_iff :
    configVerdict folder stock = .error fault ∧ configurationFault fault = none ↔
      ConfigBroken folder stock fault := by
  rw [configVerdict, bind_eq_error]
  constructor
  · rintro ⟨hcredentials | ⟨credentials, hcredentials, h⟩, hstray⟩
    · obtain ⟨raw, hraw, htext, rfl⟩ := stray_verdict_iff.1 ⟨hcredentials, hstray⟩
      exact .credentials hraw htext
    · rcases bind_eq_error.1 h with hintervals | ⟨intervals, -, hpure⟩
      · obtain ⟨raw, hraw, htext, rfl⟩ := stray_verdict_iff.1 ⟨hintervals, hstray⟩
        exact .intervals hcredentials hraw htext
      · cases hpure
  · rintro (⟨hraw, htext⟩ | ⟨hcredentials, hraw, htext⟩)
    · obtain ⟨hverdict, hstray⟩ := stray_verdict_iff.2 ⟨_, hraw, htext, rfl⟩
      exact ⟨.inl hverdict, hstray⟩
    · obtain ⟨hverdict, hstray⟩ := stray_verdict_iff.2 ⟨_, hraw, htext, rfl⟩
      exact ⟨.inr ⟨_, hcredentials, bind_eq_error.2 (.inl hverdict)⟩, hstray⟩

/-- What is wrong with the macros is not expected just if they encode no text. -/
theorem stray_macrosVerdict_iff {path : Path} {content : Option Content} :
    Source.macrosVerdict path content = .error fault ∧ scriptFault fault = none ↔
      ∃ raw, content = some raw ∧ Disk.textOf? raw = none ∧ fault = .undecodable path := by
  cases content with
  | none => exact ⟨nofun, nofun⟩
  | some raw =>
    rw [Source.macrosVerdict, bind_eq_error]
    constructor
    · rintro ⟨h | ⟨text, -, h⟩, hstray⟩
      · exact ⟨raw, rfl, textResult_eq_error.1 h⟩
      · -- what is wrong with the lines is expected
        obtain ⟨hoversize, -⟩ := stray_mapError_iff.1 ⟨h, hstray⟩
        obtain ⟨flaw, line, heq⟩ := Source.malformed_of_ofLines hoversize
        cases heq
    · rintro ⟨_, ⟨rfl⟩, htext, rfl⟩
      exact ⟨.inl (textResult_eq_error.2 ⟨htext, rfl⟩), rfl⟩

theorem stray_compileVerdict_iff {maxRepeats : Int} :
    compileVerdict settings digits stock maxRepeats = .error fault ∧ scriptFault fault = none ↔
      ScriptBroken settings digits stock maxRepeats fault := by
  rw [compileVerdict, Source.verdict, bind_eq_error]
  constructor
  · rintro ⟨h | ⟨text, htext, h⟩, hstray⟩
    · obtain ⟨hnone, rfl⟩ := textResult_eq_error.1 h
      exact .script hnone
    rw [textResult_eq_ok] at htext
    rcases bind_eq_error.1 h with hmacros | ⟨table, htable, h⟩
    · obtain ⟨raw, hraw, hnone, rfl⟩ := stray_macrosVerdict_iff.1 ⟨hmacros, hstray⟩
      exact .macros htext hraw hnone
    rcases bind_eq_error.1 h with hexpand | ⟨lines, hlines, h⟩
    · obtain ⟨hoversize, -⟩ := stray_mapError_iff.1 ⟨hexpand, hstray⟩
      obtain ⟨flaw, line, heq⟩ := Source.malformed_of_expand hoversize
      cases heq
    obtain ⟨hresult, rfl⟩ := stray_mapError_iff.1 ⟨h, hstray⟩
    cases hexpanded : table.expand text.lines with
    | error error =>
      rw [hexpanded] at hlines
      cases hlines
    | ok lines' =>
      rw [hexpanded] at hlines
      obtain rfl := Except.ok.inj hlines
      obtain ⟨before, raw, after, rfl, hbefore, hraw, hfits⟩ := Compilation.result_eq_oversize.1 hresult
      exact .placeholder htext htable hexpanded hbefore hraw hfits
  · rintro (hnone | ⟨htext, hraw, hnone⟩ | ⟨htext, htable, hlines, hbefore, hraw, hfits⟩)
    · exact ⟨.inl (textResult_eq_error.2 ⟨hnone, rfl⟩), rfl⟩
    · obtain ⟨hverdict, hstray⟩ := stray_macrosVerdict_iff.2 ⟨_, hraw, hnone, rfl⟩
      exact ⟨.inr ⟨_, textResult_eq_ok.2 htext, bind_eq_error.2 (.inl hverdict)⟩, hstray⟩
    · refine ⟨.inr ⟨_, textResult_eq_ok.2 htext, bind_eq_error.2 (.inr ⟨_, htable, ?_⟩)⟩, rfl⟩
      rw [hlines]
      refine (stray_mapError_iff.2 ⟨?_, rfl⟩).1
      exact Compilation.result_eq_oversize.2 ⟨_, _, _, rfl, hbefore, hraw, hfits⟩

/-- What is not expected is not made a result. -/
theorem stray_iff {α : Type} {caught : Fault → Option Text} {fault' : Fault} :
    (if (caught fault').isSome then .ok none else .error fault' : Except Fault (Option α)) = .error fault ↔
      fault' = fault ∧ caught fault = none := by
  split
  · next hcaught =>
    refine ⟨nofun, ?_⟩
    rintro ⟨rfl, hstray⟩
    rw [hstray] at hcaught
    cases hcaught
  · next hstray =>
    rw [Bool.not_eq_true, Option.isSome_eq_false_iff, Option.isNone_iff_eq_none] at hstray
    constructor
    · intro h
      obtain rfl := Except.error.inj h
      exact ⟨rfl, hstray⟩
    · rintro ⟨rfl, -⟩
      rfl

theorem verdict_eq_error :
    verdict settings digits stock = .error fault ↔ Broken settings digits stock fault := by
  rw [verdict, Broken, ← stray_configVerdict_iff]
  cases configVerdict settings.folder stock with
  | error fault' =>
    dsimp only
    rw [stray_iff, Except.error.injEq, or_iff_left]
    rintro ⟨config, hconfig, -⟩
    cases hconfig
  | ok config =>
    obtain ⟨credentials, intervals⟩ := config
    rw [or_iff_right (by rintro ⟨h, -⟩; cases h)]
    constructor
    · intro h
      refine ⟨_, rfl, stray_compileVerdict_iff.1 ?_⟩
      dsimp only at h
      cases hcompile : compileVerdict settings digits stock intervals.maxRepeats with
      | error fault' =>
        rw [hcompile] at h
        obtain ⟨rfl, hstray⟩ := stray_iff.1 h
        exact ⟨rfl, hstray⟩
      | ok tasks =>
        rw [hcompile] at h
        cases h
    · rintro ⟨_, ⟨rfl⟩, hbroken⟩
      obtain ⟨hcompile, hstray⟩ := stray_compileVerdict_iff.2 hbroken
      dsimp only
      rw [hcompile]
      exact stray_iff.2 ⟨rfl, hstray⟩

/-- There is a run just if the configuration can be read and the script compiles, and the run is of
those. -/
theorem verdict_eq_some {prepared : Prepared} :
    verdict settings digits stock = .ok (some prepared) ↔
      configVerdict settings.folder stock = .ok (prepared.credentials, prepared.intervals) ∧
        compileVerdict settings digits stock prepared.intervals.maxRepeats = .ok prepared.tasks ∧
        Disk.textOf? stock.script = some prepared.script := by
  rw [verdict]
  constructor
  · intro h
    split at h
    · split at h <;> cases h
    · next credentials intervals hconfig =>
      split at h
      · split at h <;> cases h
      · next tasks hcompile =>
        obtain rfl := Option.some.inj (Except.ok.inj h)
        obtain ⟨text, htext⟩ := exists_text_of_compileVerdict hcompile
        exact ⟨hconfig, hcompile, by rw [htext]; rfl⟩
  · rintro ⟨hconfig, hcompile, htext⟩
    rw [hconfig]
    dsimp only
    rw [hcompile, htext]
    rfl

/-! ## Explanations -/

/-- If the routine comes to nothing, it has said why. -/
def Explains {σ α : Type} (m : Routine σ (Option α)) : Prop :=
  ∀ s, (m s).result = .ok none → ∃ entry ∈ (m s).log, entry.level = .error

theorem explains_bind {σ α β : Type} {m : Routine σ β} {f : β → Routine σ (Option α)}
    (h : ∀ b, Explains (f b)) : Explains (m >>= f) := by
  intro s hnone
  obtain ⟨b, -, hrest, heq⟩ := Routine.bind_ok hnone
  obtain ⟨entry, hentry, hlevel⟩ := h b _ hrest
  rw [heq]
  exact ⟨entry, List.mem_append_right _ hentry, hlevel⟩

theorem explains_say {σ α : Type} {message : Text} :
    Explains (do Routine.say .error message; return none : Routine σ (Option α)) :=
  fun _ _ => ⟨_, .head _, rfl⟩

theorem explains_some {σ α : Type} {a : α} : Explains (pure (some a) : Routine σ (Option α)) := nofun

theorem explains_prepare : Explains (prepare settings digits) := by
  refine explains_bind fun config => ?_
  cases config with
  | error message => exact explains_say
  | ok config =>
    refine explains_bind fun _ => explains_bind fun _ => explains_bind fun tasks => ?_
    cases tasks with
    | error message => exact explains_say
    | ok tasks => exact explains_bind fun _ => explains_some

/-! ## The result -/

/-- **What comes before a run.** On a workspace whose folders and files can be made, everything before the
run breaks off just where octets encode no text or a placeholder asks for too many digits. In every other
case there is a run, of what the files say, or it has been said why there is none. -/
theorem prepare_breaks_iff (husual : Usual settings) (h : Usable stock)
    (hshows : Shows settings.folder root disk stock) :
    (∀ fault, (prepare settings digits disk).result = .error fault ↔ Broken settings digits stock fault) ∧
      (∀ prepared, (prepare settings digits disk).result = .ok (some prepared) ↔
        configVerdict settings.folder stock = .ok (prepared.credentials, prepared.intervals) ∧
          compileVerdict settings digits stock prepared.intervals.maxRepeats = .ok prepared.tasks ∧
          Disk.textOf? stock.script = some prepared.script) ∧
      ((prepare settings digits disk).result = .ok none →
        ∃ entry ∈ (prepare settings digits disk).log, entry.level = .error) := by
  obtain ⟨stock', hbrings⟩ := brings_verdict husual h
  have hresult : (prepare settings digits disk).result = verdict settings digits stock :=
    (hbrings disk hshows).1
  refine ⟨fun fault => ?_, fun prepared => ?_, explains_prepare disk⟩
  · rw [hresult, verdict_eq_error]
  · rw [hresult, verdict_eq_some]

/-- A disk with a workspace whose credentials are one octet that is no text. -/
def untextual : Disk where
  nodes :=
    [(["dist".toList], .folder), ([configFolder, "dist".toList], .folder),
      (Slot.credentials.location ["dist".toList], .file (.octets [0xff]))]

/-- What is in the slots of this workspace. -/
def untextualStock : Stock := fun slot => untextual.node? (slot.location ["dist".toList])

theorem usable_untextualStock : Usable untextualStock where
  folder slot := by cases slot <;> decide
  file slot := by cases slot <;> decide

theorem shows_untextual : Shows ({} : Settings).folder ["dist".toList] untextual untextualStock where
  located := rfl
  there := by decide
  short := by decide +kernel
  node _ := rfl

/-- Credentials that are no text are not expected. -/
theorem prepare_breaks_iff_of_untextual :
    (prepare {} (fun _ => 0) untextual).result =
      .error (.undecodable ⟨.here, ["dist", "config", "credentials.json"].map String.toList⟩) := by
  refine ((prepare_breaks_iff ⟨rfl, rfl⟩ usable_untextualStock shows_untextual).1 _).2 (.inl ?_)
  exact .credentials rfl (by decide +kernel)

/-- So not everything that is wrong with a file is said. -/
theorem prepare_may_break :
    ¬∀ (settings : Settings) (digits : DigitStream) (stock : Stock) (root : Location) (disk : Disk),
      Usual settings → Usable stock → Shows settings.folder root disk stock →
      (∃ prepared, (prepare settings digits disk).result = .ok (some prepared)) ∨
        (prepare settings digits disk).result = .ok none ∧
          ∃ entry ∈ (prepare settings digits disk).log, entry.level = .error := by
  intro h
  have hnone : (prepare {} (fun _ => 0) untextual).result.toOption = none := by decide +kernel
  rcases h {} (fun _ => 0) untextualStock ["dist".toList] untextual ⟨rfl, rfl⟩ usable_untextualStock
    shows_untextual with ⟨prepared, hresult⟩ | ⟨hresult, -⟩
  · rw [hresult] at hnone
    cases hnone
  · rw [hresult] at hnone
    cases hnone

end ScreenScript.Launch
