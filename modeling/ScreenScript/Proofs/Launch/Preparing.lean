import ScreenScript.Launch
import ScreenScript.Proofs.Config.Store
import ScreenScript.Proofs.Script.Source

/-!
# What comes before a run

Everything before a run depends on the contents of four files. The configuration is loaded twice and comes
to the same twice, since what the first time writes is read as the default values the second time.

* `Workspace.Usable` — a workspace whose folders and files can be made
* `Launch.configVerdict`, `Launch.compileVerdict`, `Launch.verdict` — what comes of the contents
* `Launch.brings_verdict` — everything before the run comes to just that
-/

namespace ScreenScript

namespace Workspace

/-! ## Usable workspaces -/

/-- Whether a slot is for a folder. -/
def Slot.isFolder : Slot → Bool
  | images | logs | config => true
  | _ => false

/-- No file stands in the way of a folder, and no folder in the way of a file. -/
structure Usable (stock : Stock) : Prop where
  folder : ∀ slot, slot.isFolder = true → stock slot = none ∨ stock slot = some .folder
  file : ∀ slot, slot.isFolder = false → stock slot ≠ some .folder

/-- The content of the file in a slot. -/
def Stock.content (stock : Stock) (slot : Slot) : Option Content :=
  match stock slot with
  | some (.file content) => some content
  | _ => none

variable {stock : Stock} {folder : Path} {root : Location}

theorem Usable.eq_content (h : Usable stock) {slot : Slot} (hslot : slot.isFolder = false) :
    stock slot = (stock.content slot).map Node.file := by
  rw [Stock.content]
  cases hnode : stock slot with
  | none => rfl
  | some node =>
    cases node with
    | folder => exact absurd hnode (h.file slot hslot)
    | file content => rfl

/-- The content of the script, which is empty if it was missing. -/
def Stock.script (stock : Stock) : Content := (stock.content .script).getD (.octets [])

/-- What is in the slots when the folders have been made. -/
def Stock.made (stock : Stock) : Stock := fun slot => if slot.isFolder then some .folder else stock slot

/-- What is in the slots when the configuration has been loaded. -/
def Stock.loaded (stock : Stock) : Stock
  | .credentials => some (.file (ConfigKind.credentials.kept (stock.content .credentials)))
  | .intervals => some (.file (ConfigKind.intervals.kept (stock.content .intervals)))
  | .script => some (.file stock.script)
  | .macros => stock .macros
  | _ => some .folder

end Workspace

namespace Launch

open Workspace

variable {stock : Stock} {folder : Path} {root : Location}

/-! ## The configuration -/

/-- What reading the configuration comes to. -/
def configVerdict (folder : Path) (stock : Stock) : Except Fault (Credentials × Intervals) := do
  let credentials ← ConfigKind.credentials.verdict (credentialsFile folder) (stock.content .credentials)
  let intervals ← ConfigKind.intervals.verdict (intervalsFile folder) (stock.content .intervals)
  return (credentials, intervals)

/-- The routine comes to a result, and leaves that in the slots, or it breaks off and leaves anything. -/
def Loads (folder : Path) (root : Location) {α : Type} (m : Routine Disk α) (stock : Stock)
    (r : Except Fault α) (final : Stock) : Prop :=
  ∃ stock', Brings folder root m stock r stock' ∧ ∀ a, r = .ok a → stock' = final

section

variable {α β : Type} {m : Routine Disk α} {f : α → Routine Disk β} {r : Except Fault α}
  {g : α → Except Fault β} {middle final : Stock}

theorem loads_of_brings (h : Brings folder root m stock r final) : Loads folder root m stock r final :=
  ⟨final, h, fun _ _ => rfl⟩

theorem Loads.bind (hm : Loads folder root m stock r middle)
    (hf : ∀ a, r = .ok a → Loads folder root (f a) middle (g a) final) :
    Loads folder root (m >>= f) stock (r >>= g) final := by
  obtain ⟨stock', hbrings, hstock⟩ := hm
  cases r with
  | error fault => exact ⟨stock', hbrings.bind_error, nofun⟩
  | ok a =>
    obtain rfl := hstock a rfl
    obtain ⟨stock₁, hnext, hstock₁⟩ := hf a rfl
    exact ⟨stock₁, hbrings.bind hnext, hstock₁⟩

end

/-- The three folders are made. -/
theorem loads_makeFolders {α : Type} {m : Routine Disk α} {r : Except Fault α} {final : Stock}
    (h : Usable stock) (hm : Loads folder root m stock.made r final) :
    Loads folder root (do
      Disk.ensureFolder (folder.child imagesFolder)
      Disk.ensureFolder (folder.child logsFolder)
      Disk.ensureFolder (folder.child configFolder)
      m) stock r final := by
  have himages := brings_ensureFolder folder root (nofun : Reaches stock .images) (h.folder .images rfl)
  have hlogs := brings_ensureFolder folder root
    (nofun : Reaches (Function.update stock .images (some .folder)) .logs) (h.folder .logs rfl)
  have hconfig := brings_ensureFolder folder root
    (nofun : Reaches (Function.update (Function.update stock .images (some .folder)) .logs
      (some .folder)) .config) (h.folder .config rfl)
  have hmade : Function.update (Function.update (Function.update stock .images (some .folder)) .logs
      (some .folder)) .config (some .folder) = stock.made := by
    funext slot
    cases slot <;> rfl
  rw [hmade] at hconfig
  have hall := (loads_of_brings himages).bind fun _ _ =>
    (loads_of_brings hlogs).bind fun _ _ => (loads_of_brings hconfig).bind fun _ _ => hm
  exact hall

/-- The configuration is loaded from slots whose folders are there. -/
theorem loads_both {stock : Stock} {credentials intervals : Option Content}
    (hconfig : stock .config = some .folder)
    (hcredentials : stock .credentials = credentials.map Node.file)
    (hintervals : stock .intervals = intervals.map Node.file) {α : Type}
    {f : Credentials → Intervals → Routine Disk α} {g : Credentials → Intervals → Except Fault α}
    {final : Stock}
    (hf : ∀ c i, Loads folder root (f c i)
      (Function.update (Function.update stock .credentials
        (some (.file (ConfigKind.credentials.kept credentials)))) .intervals
        (some (.file (ConfigKind.intervals.kept intervals)))) (g c i) final) :
    Loads folder root (do
      let c ← ConfigKind.credentials.load (credentialsFile folder)
      let i ← ConfigKind.intervals.load (intervalsFile folder)
      f c i) stock (do
        let c ← ConfigKind.credentials.verdict (credentialsFile folder) credentials
        let i ← ConfigKind.intervals.verdict (intervalsFile folder) intervals
        g c i) final := by
  have hfirst := ConfigKind.brings_load .credentials folder root rfl
    (fun _ => hconfig : Reaches stock .credentials) hcredentials
  have hreach : Reaches (Function.update stock .credentials
      (some (.file (ConfigKind.credentials.kept credentials)))) .intervals := fun _ => hconfig
  have hsecond := ConfigKind.brings_load .intervals folder root rfl hreach hintervals
  rw [Slot.path_credentials] at hfirst
  rw [Slot.path_intervals] at hsecond
  exact (loads_of_brings hfirst).bind fun c _ => (loads_of_brings hsecond).bind fun i _ => hf c i

theorem loads_script (h : Usable stock) {stock₁ : Stock} (hscript : stock₁ .script = stock .script) :
    Loads folder root (do
      if ← Disk.checkExists (scriptFile folder) then return () else Disk.touchFile (scriptFile folder))
      stock₁ (.ok ()) (Function.update stock₁ .script (some (.file stock.script))) := by
  have hreach : Reaches stock₁ .script := nofun
  have hexists := brings_checkExists folder root hreach
  have hcontent : stock .script = _ := h.eq_content rfl
  rw [← Slot.path_script]
  rw [hscript, hcontent] at hexists
  rw [Stock.script]
  cases hfile : stock.content .script with
  | none =>
    rw [hfile] at hexists hcontent
    exact loads_of_brings (hexists.bind (brings_touchFile folder root hreach (hscript.trans hcontent)))
  | some content =>
    rw [hfile] at hexists hcontent
    have hsame : Function.update stock₁ .script (some (.file content)) = stock₁ := by
      rw [Function.update_eq_iff.2 ⟨(hscript.trans hcontent).symm, fun _ _ => rfl⟩]
    rw [Option.getD_some, hsame]
    exact loads_of_brings (hexists.bind brings_pure)

/-- The workspace is made ready unless something is wrong with its configuration. -/
theorem loads_prepare (h : Usable stock) :
    Loads folder root (Workspace.prepare folder) stock (do
      let _ ← ConfigKind.credentials.verdict (credentialsFile folder) (stock.content .credentials)
      let _ ← ConfigKind.intervals.verdict (intervalsFile folder) (stock.content .intervals)
      .ok ()) stock.loaded := by
  have hconfig : stock.made .config = some .folder := rfl
  have hcredentials : stock.made .credentials = (stock.content .credentials).map Node.file :=
    h.eq_content rfl
  have hintervals : stock.made .intervals = (stock.content .intervals).map Node.file :=
    h.eq_content rfl
  refine loads_makeFolders h (loads_both hconfig hcredentials hintervals fun c i => ?_)
  have hloaded : Function.update (Function.update (Function.update stock.made .credentials
      (some (.file (ConfigKind.credentials.kept (stock.content .credentials))))) .intervals
      (some (.file (ConfigKind.intervals.kept (stock.content .intervals))))) .script
      (some (.file stock.script)) = stock.loaded := by
    funext slot
    cases slot <;> rfl
  rw [← hloaded]
  exact loads_script h rfl

/-- Loading the configuration once more comes to the same. -/
theorem loads_loadConfig (h : Usable stock) :
    Loads folder root (loadConfig folder) stock (configVerdict folder stock) stock.loaded := by
  have hconfig : stock.loaded .config = some .folder := rfl
  have hcredentials : stock.loaded .credentials =
      (some (ConfigKind.credentials.kept (stock.content .credentials))).map Node.file := rfl
  have hintervals : stock.loaded .intervals =
      (some (ConfigKind.intervals.kept (stock.content .intervals))).map Node.file := rfl
  have hsame : Function.update (Function.update stock.loaded .credentials
      (some (.file (ConfigKind.credentials.kept
        (some (ConfigKind.credentials.kept (stock.content .credentials))))))) .intervals
      (some (.file (ConfigKind.intervals.kept
        (some (ConfigKind.intervals.kept (stock.content .intervals)))))) = stock.loaded := by
    rw [ConfigKind.kept_kept ConfigKind.renewable_credentials,
      ConfigKind.kept_kept ConfigKind.renewable_intervals]
    funext slot
    cases slot <;> rfl
  have hagain : Loads folder root (loadConfig folder) stock _ stock.loaded :=
    (loads_prepare h).bind fun _ _ => loads_both hconfig hcredentials hintervals fun c i => by
      rw [hsame]
      exact loads_of_brings brings_pure
  rw [ConfigKind.verdict_kept ConfigKind.renewable_credentials,
    ConfigKind.verdict_kept ConfigKind.renewable_intervals] at hagain
  have hverdict : configVerdict folder stock = (do
      let _ ← (do
        let _ ← ConfigKind.credentials.verdict (credentialsFile folder) (stock.content .credentials)
        let _ ← ConfigKind.intervals.verdict (intervalsFile folder) (stock.content .intervals)
        .ok ())
      let c ← ConfigKind.credentials.verdict (credentialsFile folder) (stock.content .credentials)
      let i ← ConfigKind.intervals.verdict (intervalsFile folder) (stock.content .intervals)
      .ok (c, i)) := by
    rw [configVerdict]
    cases ConfigKind.credentials.verdict (credentialsFile folder) (stock.content .credentials) with
    | error fault => rfl
    | ok c =>
      cases ConfigKind.intervals.verdict (intervalsFile folder) (stock.content .intervals) <;> rfl
  rw [hverdict]
  exact hagain

/-! ## Everything before the run -/

/-- What compiling the script comes to when the configuration has been loaded. -/
def compileVerdict (settings : Settings) (digits : DigitStream) (stock : Stock) (maxRepeats : Int) :
    Except Fault (List Task) :=
  Source.verdict digits maxRepeats settings.script settings.macros stock.script (stock.content .macros)

/-- What everything before the run comes to. -/
def verdict (settings : Settings) (digits : DigitStream) (stock : Stock) :
    Except Fault (Option Prepared) :=
  match configVerdict settings.folder stock with
  | .error fault => if (configurationFault fault).isSome then .ok none else .error fault
  | .ok (credentials, intervals) =>
    match compileVerdict settings digits stock intervals.maxRepeats with
    | .error fault => if (scriptFault fault).isSome then .ok none else .error fault
    | .ok tasks => .ok (some ⟨credentials, intervals, tasks, (Disk.textOf? stock.script).getD []⟩)

variable {settings : Settings} {digits : DigitStream} {disk : Disk} {fault : Fault}

/-- The script and the macros are where they are expected. -/
structure Usual (settings : Settings) : Prop where
  script : settings.scriptFile = Slot.script.name
  macros : settings.macrosFile = Slot.macros.name

theorem Usual.script_eq (h : Usual settings) : settings.script = Slot.script.path settings.folder := by
  rw [Settings.script, h.script]
  rfl

theorem Usual.macros_eq (h : Usual settings) : settings.macros = Slot.macros.path settings.folder := by
  rw [Settings.macros, h.macros]
  rfl

theorem brings_compile (husual : Usual settings) (h : Usable stock) (maxRepeats : Int) :
    Brings settings.folder root (compile settings digits maxRepeats) stock.loaded
      (compileVerdict settings digits stock maxRepeats) stock.loaded := by
  have hscript : stock.loaded .script = some (.file stock.script) := rfl
  have hmacros : stock.loaded .macros = (stock.content .macros).map Node.file := h.eq_content rfl
  rw [compile, compileVerdict, husual.script_eq, husual.macros_eq]
  exact Source.brings_compileFile hscript hmacros

/-- A script that compiles has a text. -/
theorem exists_text_of_compileVerdict {maxRepeats : Int} {tasks : List Task}
    (h : compileVerdict settings digits stock maxRepeats = .ok tasks) :
    ∃ text, Disk.textOf? stock.script = some text := by
  rw [compileVerdict, Source.verdict, textResult] at h
  cases htext : Disk.textOf? stock.script with
  | some text => exact ⟨text, rfl⟩
  | none =>
    rw [htext] at h
    cases h

/-- Everything before the run comes to its verdict. -/
theorem brings_verdict (husual : Usual settings) (h : Usable stock) :
    ∃ stock', Brings settings.folder root (prepare settings digits) stock (verdict settings digits stock)
      stock' := by
  have hload : Loads settings.folder root (loadConfig settings.folder) stock _ stock.loaded :=
    loads_loadConfig h
  obtain ⟨stock', hconfig, hloaded⟩ := hload
  rw [verdict]
  cases hverdict : configVerdict settings.folder stock with
  | error fault =>
    rw [hverdict] at hconfig
    dsimp only
    cases hcaught : configurationFault fault with
    | some message =>
      exact ⟨stock', (hconfig.attempt_of_caught hcaught).bind (brings_say.bind brings_pure)⟩
    | none => exact ⟨stock', (hconfig.attempt_of_uncaught hcaught).bind_error⟩
  | ok config =>
    obtain ⟨credentials, intervals⟩ := config
    rw [hverdict] at hconfig
    obtain rfl := hloaded _ hverdict
    refine ⟨stock.loaded, hconfig.attempt_of_ok.bind (brings_say.bind (brings_say.bind ?_))⟩
    have hcompile : Brings settings.folder root (compile settings digits intervals.maxRepeats) _ _ _ :=
      brings_compile husual h intervals.maxRepeats
    dsimp only
    cases htasks : compileVerdict settings digits stock intervals.maxRepeats with
    | error fault =>
      rw [htasks] at hcompile
      dsimp only
      cases hcaught : scriptFault fault with
      | some message => exact (hcompile.attempt_of_caught hcaught).bind (brings_say.bind brings_pure)
      | none => exact (hcompile.attempt_of_uncaught hcaught).bind_error
    | ok tasks =>
      rw [htasks] at hcompile
      obtain ⟨text, htext⟩ := exists_text_of_compileVerdict htasks
      have hreach : Reaches stock.loaded .script := nofun
      have hread := brings_readText settings.folder root hreach
        (rfl : stock.loaded .script = some (.file stock.script))
      rw [textResult, htext, ← husual.script_eq] at hread
      dsimp only
      rw [htext]
      exact hcompile.attempt_of_ok.bind (hread.bind brings_pure)

end Launch

end ScreenScript
