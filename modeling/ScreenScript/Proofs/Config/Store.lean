import ScreenScript.Proofs.Config.Workspace

/-!
# What comes of configuration files

Loading a configuration depends on the content of its file alone. A file that is missing or blank is
written, and what is written there is read as the default values again; no other file is touched. So a
configuration that is loaded twice comes to the same twice.

* `ConfigKind.verdict`, `ConfigKind.kept` — what loading comes to, and what the file holds then
* `ConfigKind.brings_load` — loading comes to just that
* `ConfigKind.Renewable` — the default values are read from the file that they are written to
-/

namespace ScreenScript.ConfigKind

open Workspace

variable {α : Type}

/-- The content of a new file. -/
def defaultContent (kind : ConfigKind α) : Content := .octets (Utf8.encode kind.defaultText)

/-- What loading the configuration comes to, given the content of its file. -/
def verdict (kind : ConfigKind α) (path : Path) : Option Content → Except Fault α
  | none => .ok kind.default
  | some content =>
    match Disk.textOf? content with
    | none => .error (.undecodable path)
    | some text =>
      if text.trim.isEmpty then .ok kind.default
      else
        match kind.ofText text with
        | .valid config => .ok config
        | .invalid complaints => .error (.configuration path complaints)

/-- What the file holds when the configuration has been loaded. -/
def kept (kind : ConfigKind α) : Option Content → Content
  | none => kind.defaultContent
  | some content =>
    match Disk.textOf? content with
    | none => content
    | some text => if text.trim.isEmpty then kind.defaultContent else content

variable {kind : ConfigKind α} {folder : Path} {root : Location} {stock : Stock} {slot : Slot}
  {content : Content}

/-! ## Loading -/

theorem silent_isUnset (path : Path) : (isUnset path).Silent := by
  refine Routine.silent_bind (Disk.silent_checkExists path) fun there => ?_
  cases there with
  | true => exact Routine.silent_bind (Disk.silent_readText path) fun _ => Routine.silent_pure
  | false => exact Routine.silent_pure

theorem brings_isUnset_of_none (hreach : Reaches stock slot) (hfile : stock slot = none) :
    Brings folder root (isUnset (slot.path folder)) stock (.ok true) stock := by
  have hexists := brings_checkExists folder root hreach
  rw [hfile] at hexists
  exact hexists.bind brings_pure

theorem brings_isUnset_of_text (folder : Path) (root : Location) {text : Text}
    (hreach : Reaches stock slot)
    (hfile : stock slot = some (.file content)) (htext : Disk.textOf? content = some text) :
    Brings folder root (isUnset (slot.path folder)) stock (.ok text.trim.isEmpty) stock := by
  have hexists := brings_checkExists folder root hreach
  rw [hfile] at hexists
  have hread := brings_readText folder root hreach hfile
  rw [textResult, htext] at hread
  exact hexists.bind (hread.bind brings_pure)

theorem brings_isUnset_of_undecodable (hreach : Reaches stock slot)
    (hfile : stock slot = some (.file content)) (htext : Disk.textOf? content = none) :
    Brings folder root (isUnset (slot.path folder)) stock
      (.error (.undecodable (slot.path folder))) stock := by
  have hexists := brings_checkExists folder root hreach
  rw [hfile] at hexists
  have hread := brings_readText folder root hreach hfile
  rw [textResult, htext] at hread
  exact hexists.bind hread.bind_error

/-- A file that is missing or blank is written. -/
theorem brings_load_of_unset (hinner : slot.isInner = true) (hreach : Reaches stock slot)
    (hfile : stock slot ≠ some .folder)
    (hunset : Brings folder root (isUnset (slot.path folder)) stock (.ok true) stock) :
    Brings folder root (kind.load (slot.path folder)) stock (.ok kind.default)
      (Function.update stock slot (some (.file kind.defaultContent))) := by
  have hconfig := hreach hinner
  have hmake := brings_ensureFolder folder root (nofun : Reaches stock .config) (.inr hconfig)
  rw [← hconfig, Function.update_eq_self, ← Slot.parent_path hinner] at hmake
  refine hunset.bind (hmake.bind ?_)
  exact (brings_writeText folder root hreach hfile).bind (brings_say.bind brings_pure)

/-- Loading a configuration comes to what its file says, and leaves the file with what is kept. -/
theorem brings_load (kind : ConfigKind α) (folder : Path) (root : Location) {slot : Slot}
    {content : Option Content} (hinner : slot.isInner = true) (hreach : Reaches stock slot)
    (hfile : stock slot = content.map Node.file) :
    Brings folder root (kind.load (slot.path folder)) stock
      (kind.verdict (slot.path folder) content)
      (Function.update stock slot (some (.file (kind.kept content)))) := by
  cases content with
  | none =>
    exact brings_load_of_unset hinner hreach (by simp [hfile]) (brings_isUnset_of_none hreach hfile)
  | some content =>
    have hsame : Function.update stock slot (some (.file content)) = stock := by
      rw [Function.update_eq_iff.2 ⟨hfile.symm, fun _ _ => rfl⟩]
    rw [verdict, kept]
    cases htext : Disk.textOf? content with
    | none =>
      dsimp only
      rw [hsame]
      exact (brings_isUnset_of_undecodable hreach hfile htext).bind_error
    | some text =>
      have hunset := brings_isUnset_of_text folder root hreach hfile htext
      have hread := brings_readText folder root hreach hfile
      rw [textResult, htext] at hread
      dsimp only
      cases hblank : text.trim.isEmpty with
      | true =>
        rw [hblank] at hunset
        exact brings_load_of_unset hinner hreach (by simp [hfile]) hunset
      | false =>
        rw [hblank] at hunset
        rw [if_neg Bool.false_ne_true, if_neg Bool.false_ne_true, hsame]
        refine hunset.bind (hread.bind ?_)
        cases kind.ofText text with
        | valid config => exact brings_pure
        | invalid complaints => exact brings_fail

/-! ## Loading again -/

/-- The default values are read from the file that they are written to. -/
def Renewable (kind : ConfigKind α) : Prop :=
  ∃ text, Disk.textOf? kind.defaultContent = some text ∧ text.trim.isEmpty = false ∧
    kind.ofText text = .valid kind.default

theorem verdict_kept (h : kind.Renewable) (path : Path) (content : Option Content) :
    kind.verdict path (some (kind.kept content)) = kind.verdict path content := by
  obtain ⟨text, htext, hblank, hvalid⟩ := h
  have hdefault : kind.verdict path (some kind.defaultContent) = .ok kind.default := by
    rw [verdict, htext]
    dsimp only
    rw [hblank, if_neg Bool.false_ne_true, hvalid]
  cases content with
  | none => exact hdefault
  | some content =>
    rw [kept]
    cases hcontent : Disk.textOf? content with
    | none => rfl
    | some text' =>
      dsimp only
      split
      · next hblank' => rw [hdefault, verdict, hcontent]; dsimp only; rw [if_pos hblank']
      · rfl

theorem kept_kept (h : kind.Renewable) (content : Option Content) :
    kind.kept (some (kind.kept content)) = kind.kept content := by
  obtain ⟨text, htext, hblank, -⟩ := h
  have hdefault : kind.kept (some kind.defaultContent) = kind.defaultContent := by
    rw [kept, htext]
    dsimp only
    rw [hblank, if_neg Bool.false_ne_true]
  cases content with
  | none => exact hdefault
  | some content =>
    have hkept : kind.kept (some content) = content ∨ kind.kept (some content) = kind.defaultContent := by
      rw [kept]
      cases Disk.textOf? content with
      | none => exact .inl rfl
      | some text' =>
        dsimp only
        split
        · exact .inr rfl
        · exact .inl rfl
    rcases hkept with hsame | hnew
    · rw [hsame, hsame]
    · rw [hnew, hdefault]

theorem renewable_credentials : credentials.Renewable :=
  ⟨credentials.defaultText, by decide +kernel, by decide +kernel, by decide +kernel⟩

theorem renewable_intervals : intervals.Renewable :=
  ⟨intervals.defaultText, by decide +kernel, by decide +kernel, by decide +kernel⟩

end ScreenScript.ConfigKind
