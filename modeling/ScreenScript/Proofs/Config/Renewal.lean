import ScreenScript.Proofs.Config.Store
import ScreenScript.Proofs.Disk.Footprint

/-!
# Workspaces are made once

To make a folder a workspace a second time changes nothing: what has been made is there, and the configuration
files that have been written are read. What was there before is spared, even where a workspace cannot be made:
only configuration files that are blank are written.

* `Workspace.Renews` — what may change on the way, from disk to disk
* `Workspace.Leaves` — what a routine leaves if it has a result, and that it changes no more than that
* `Workspace.leaves_load` — loading a configuration leaves a file from which it is read
* `Workspace.Complete` — everything that a workspace has to have
* `Workspace.establish_lasts_and_spares` — what making a workspace comes to
-/

namespace ScreenScript

/-- A file with this content is blank. -/
def Content.IsBlank (content : Content) : Prop :=
  ∃ text, Disk.textOf? content = some text ∧ text.trim.isEmpty = true

variable {α β : Type} {disk disk' between next : Disk} {folder path : Path} {root location : Location}
  {content : Content} {name : Text} {kind : ConfigKind α} {config : α}

namespace Disk

/-! ## Folders -/

/-- A name in a folder leads to a place in it. -/
theorem eq_of_locate_child (hname : Path.IsName name) (hroot : disk.locate path = .ok root)
    (h : disk.locate (path.child name) = .ok location) : location = name :: root := by
  rw [Path.child_eq hname] at h
  exact (Except.ok.inj (walk_of_locate_behind hroot hname.noUp h)).symm

theorem FolderAt.yields_ensureFolder (h : FolderAt path disk) : (ensureFolder path).Yields disk () disk [] :=
  Disk.yields_ensureFolder.2 ⟨h.makeFolders, rfl⟩

end Disk

namespace Workspace

open Disk

/-! ## What is renewed -/

/-- The path of a configuration file. -/
def configFile (folder : Path) (name : Text) : Path := (folder.child configFolder).child name

/-- The place is in the folder for configuration files. -/
def InConfig (folder : Path) (disk : Disk) (location : Location) : Prop :=
  ∃ root name, disk.locate (folder.child configFolder) = .ok root ∧ location = name :: root

/-- From one disk to the next, no folder goes, and no file changes but blank ones in the folder for
configuration files. -/
structure Renews (folder : Path) (disk disk' : Disk) : Prop where
  keeps : disk.KeepsFolders disk'
  file : ∀ {location content}, disk.node? location = some (.file content) →
    disk'.node? location = some (.file content) ∨ content.IsBlank ∧ InConfig folder disk' location

theorem Renews.refl (folder : Path) (disk : Disk) : Renews folder disk disk := ⟨.refl disk, .inl⟩

theorem InConfig.keep (h : InConfig folder disk location) (hkeeps : disk.KeepsFolders disk') :
    InConfig folder disk' location := by
  obtain ⟨root, name, hlocate, hlocation⟩ := h
  exact ⟨root, name, hkeeps.locate hlocate, hlocation⟩

theorem Renews.trans (h : Renews folder disk between) (h' : Renews folder between disk') :
    Renews folder disk disk' := by
  refine ⟨h.keeps.trans h'.keeps, fun hfile => ?_⟩
  rcases h.file hfile with hkept | ⟨hblank, hplace⟩
  · exact h'.file hkept
  · exact .inr ⟨hblank, hplace.keep h'.keeps⟩

/-- Where nothing is, anything may be put. -/
theorem renews_put_new (folder : Path) (node : Node) (h : disk.node? location = none) :
    Renews folder disk (disk.put location node) := by
  have hnode : disk.node? location ≠ some .folder := by simp [h]
  refine ⟨keepsFolders_put node hnode, fun {place content} hfile => .inl ?_⟩
  rw [node?_put disk place node (ne_nil_of_not_folder hnode), if_neg, hfile]
  rintro rfl
  rw [h] at hfile
  cases hfile

/-- A blank file in the folder for configuration files may be written. -/
theorem renews_put_blank (node : Node) (h : disk.node? location = some (.file content))
    (hblank : content.IsBlank) (hplace : InConfig folder disk location) :
    Renews folder disk (disk.put location node) := by
  have hnode : disk.node? location ≠ some .folder := by simp [h]
  have hkeeps := keepsFolders_put node hnode
  refine ⟨hkeeps, fun {place other} hfile => ?_⟩
  by_cases heq : place = location
  · subst heq
    obtain rfl : content = other := by simpa [h] using hfile
    exact .inr ⟨hblank, hplace.keep hkeeps⟩
  · rw [node?_put disk place node (ne_nil_of_not_folder hnode), if_neg heq]
    exact .inl hfile

theorem renews_makeFolder (folder : Path) (h : disk.makeFolder path = .ok next) : Renews folder disk next := by
  obtain ⟨location, -, ⟨-, rfl⟩ | ⟨hnone, rfl⟩⟩ := put_of_makeFolder h
  · exact .refl folder next
  · exact renews_put_new folder _ hnone

theorem renews_makeFoldersFrom (folder : Path) (start : PathStart) (up : List Text) (disk : Disk) :
    Renews folder disk (makeFoldersFrom start up disk).2 := by
  induction up generalizing disk with
  | nil =>
    rw [makeFoldersFrom]
    split
    · next made hmake => exact renews_makeFolder folder hmake
    · exact .refl folder disk
  | cons name up ih =>
    rw [makeFoldersFrom]
    split
    · next made hmake => exact renews_makeFolder folder hmake
    · split
      · have haround := ih disk
        split
        · next heq => rwa [heq] at haround
        · next made heq =>
          rw [heq] at haround
          split
          · next last hmake => exact haround.trans (renews_makeFolder folder hmake)
          · exact haround
      · exact .refl folder disk

theorem renews_touch (folder : Path) (h : disk.touch path = .ok next) : Renews folder disk next := by
  obtain ⟨location, -, ⟨-, rfl⟩ | ⟨hnone, rfl⟩⟩ := put_of_touch h
  · exact .refl folder next
  · exact renews_put_new folder _ hnone

/-! ## What routines leave -/

variable {m : Routine Disk α} {f : α → Routine Disk β} {P P' F : Disk → Prop} {Q : α → Disk → Prop}
  {R : β → Disk → Prop}

/-- From this disk, the routine renews no more than it may, and leaves `Q` if it has a result. -/
def LeavesFrom (folder : Path) (disk : Disk) (m : Routine Disk α) (Q : α → Disk → Prop) : Prop :=
  Renews folder disk (m disk).state ∧ ∀ a, (m disk).result = .ok a → Q a (m disk).state

/-- The same from each disk with `P`. -/
def Leaves (folder : Path) (P : Disk → Prop) (m : Routine Disk α) (Q : α → Disk → Prop) : Prop :=
  ∀ disk, P disk → LeavesFrom folder disk m Q

/-- What holds on a disk holds when it has been renewed. -/
def Lasts (folder : Path) (P : Disk → Prop) : Prop :=
  ∀ disk disk', Renews folder disk disk' → P disk → P disk'

theorem Lasts.and (h : Lasts folder P) (h' : Lasts folder F) : Lasts folder fun disk => P disk ∧ F disk :=
  fun disk disk' hrenews hboth => ⟨h disk disk' hrenews hboth.1, h' disk disk' hrenews hboth.2⟩

/-- A silent routine, of whose result something is known. -/
theorem leavesFrom_of_silent (hm : m.Silent) (hresult : ∀ a, (m disk).result = .ok a → Q a disk) :
    LeavesFrom folder disk m Q := by
  rw [LeavesFrom, (hm disk).1]
  exact ⟨.refl folder disk, hresult⟩

/-- A routine that breaks off. -/
theorem leavesFrom_of_error {fault : Fault} (hresult : (m disk).result = .error fault)
    (hstate : Renews folder disk (m disk).state) : LeavesFrom folder disk m Q := by
  refine ⟨hstate, fun a hr => ?_⟩
  rw [hresult] at hr
  cases hr

/-- Behind a routine with a result, from the disk that it leaves. -/
theorem LeavesFrom.behind {a : α} {events : List Event} (hm : m.Yields disk a next events)
    (hrenews : Renews folder disk next) (hf : LeavesFrom folder next (f a) R) :
    LeavesFrom folder disk (m >>= f) R := by
  rw [LeavesFrom, Routine.bind_of_ok hm.result, Outcome.behind, hm.state]
  exact ⟨hrenews.trans hf.1, hf.2⟩

theorem LeavesFrom.behind_error {fault : Fault} (hresult : (m disk).result = .error fault)
    (hstate : Renews folder disk (m disk).state) : LeavesFrom folder disk (m >>= f) R := by
  rw [LeavesFrom, Routine.bind_of_error hresult]
  exact ⟨hstate, nofun⟩

/-- One routine behind another, which finds what was there before and what that one has left. -/
theorem Leaves.bind (hm : Leaves folder P' m Q) (hpre : ∀ disk, P disk → P' disk) (hlasts : Lasts folder P)
    (hf : ∀ a, Leaves folder (fun disk => P disk ∧ Q a disk) (f a) R) : Leaves folder P (m >>= f) R := by
  intro disk hP
  obtain ⟨hrenews, hpost⟩ := hm disk (hpre disk hP)
  cases hr : (m disk).result with
  | error fault => exact .behind_error hr hrenews
  | ok a => exact .behind (Routine.yields_of_result hr) hrenews (hf a _ ⟨hlasts _ _ hrenews hP, hpost a hr⟩)

theorem lasts_folderAt (folder path : Path) : Lasts folder (FolderAt path) :=
  fun _ _ hrenews h => h.keep hrenews.keeps

theorem leaves_ensureFolder (folder path : Path) :
    Leaves folder (fun _ => True) (ensureFolder path) fun _ => FolderAt path := by
  intro disk _
  rw [LeavesFrom, state_ensureFolder]
  refine ⟨renews_makeFoldersFrom folder _ _ disk, fun _ hr => ?_⟩
  have hmade := (Disk.yields_ensureFolder.1 (Routine.yields_of_result hr)).1
  have hfolder := folderAt_of_makeFolders hmade
  rwa [state_ensureFolder] at hfolder

/-! ## Configuration files -/

/-- The path leads to a file from which the configuration is read. -/
def Holds (kind : ConfigKind α) (path : Path) (config : α) (disk : Disk) : Prop :=
  ∃ content, disk.read path = .ok content ∧ ¬ content.IsBlank ∧ kind.verdict path (some content) = .ok config

theorem lasts_holds (folder : Path) (kind : ConfigKind α) (path : Path) (config : α) :
    Lasts folder (Holds kind path config) := by
  rintro disk disk' hrenews ⟨content, hread, hblank, hverdict⟩
  obtain ⟨location, hlocate, hfile⟩ := file_of_read hread
  -- a file that is not blank is none of those that may change
  have hkept : disk'.node? location = some (.file content) :=
    (hrenews.file hfile).resolve_right fun h => hblank h.1
  refine ⟨content, ?_, hblank, hverdict⟩
  rw [Disk.read, hrenews.keeps.locate hlocate]
  dsimp only
  rw [hkept]

theorem result_isUnset (path : Path) (disk : Disk) :
    (ConfigKind.isUnset path disk).result =
      ((disk.exists? path).mapError .file).bind fun there =>
        if there then (readText path disk).result.map fun text => text.trim.isEmpty else .ok true := by
  rw [ConfigKind.isUnset, (silent_checkExists path).result_bind, result_checkExists]
  cases (disk.exists? path).mapError Fault.file with
  | error fault => rfl
  | ok there =>
    cases there with
    | false => rfl
    | true =>
      dsimp only [Except.bind]
      rw [if_pos rfl, if_pos rfl, (silent_readText path).result_bind]
      cases (readText path disk).result <;> rfl

/-- The text of a file is found to be blank or not. -/
theorem text_of_result {unset : Bool}
    (h : ((readText path disk).result.map fun text => text.trim.isEmpty) = .ok unset) :
    ∃ content text, disk.read path = .ok content ∧ textOf? content = some text ∧ text.trim.isEmpty = unset := by
  rw [result_readText] at h
  cases hread : disk.read path with
  | error error =>
    rw [hread] at h
    cases h
  | ok content =>
    rw [hread] at h
    dsimp only [Except.mapError, Except.bind] at h
    rw [textResult] at h
    cases htext : textOf? content with
    | none =>
      rw [htext] at h
      cases h
    | some text =>
      rw [htext] at h
      exact ⟨content, text, rfl, htext, Except.ok.inj h⟩

/-- What is unset is missing or blank. -/
theorem blank_of_isUnset (h : (ConfigKind.isUnset path disk).result = .ok true)
    (hlocate : disk.locate path = .ok location) :
    disk.node? location = none ∨
      ∃ content, disk.node? location = some (.file content) ∧ content.IsBlank := by
  have hexists : disk.exists? path = .ok (disk.node? location).isSome := by rw [exists?, hlocate]
  rw [result_isUnset, hexists] at h
  cases hnode : disk.node? location with
  | none => exact .inl rfl
  | some node =>
    rw [hnode] at h
    obtain ⟨content, text, hread, htext, hblank⟩ := text_of_result h
    obtain ⟨place, hplace, hfile⟩ := file_of_read hread
    obtain rfl : location = place := Except.ok.inj (hlocate.symm.trans hplace)
    exact .inr ⟨content, hnode.symm.trans hfile, text, htext, hblank⟩

/-- What is not unset is a file with a text that is not blank. -/
theorem text_of_isUnset (h : (ConfigKind.isUnset path disk).result = .ok false) :
    ∃ content text, disk.read path = .ok content ∧ textOf? content = some text ∧
      text.trim.isEmpty = false := by
  rw [result_isUnset] at h
  cases hexists : disk.exists? path with
  | error error =>
    rw [hexists] at h
    cases h
  | ok there =>
    rw [hexists] at h
    cases there with
    | false => cases h
    | true => exact text_of_result h

theorem not_isBlank {text : Text} (htext : textOf? content = some text) (h : text.trim.isEmpty = false) :
    ¬ content.IsBlank := by
  rintro ⟨other, hother, hblank⟩
  rw [htext] at hother
  rw [← Option.some.inj hother, h] at hblank
  cases hblank

/-- The default values are read from the file that they have been written to. -/
theorem holds_of_write (hrenewable : kind.Renewable)
    (h : disk.write path (.octets (Utf8.encode kind.defaultText)) = .ok next) :
    Holds kind path kind.default next := by
  obtain ⟨text, htext, hblank, hvalid⟩ := hrenewable
  refine ⟨kind.defaultContent, read_of_write h, not_isBlank htext hblank, ?_⟩
  rw [ConfigKind.verdict, htext]
  dsimp only
  rw [hblank, if_neg Bool.false_ne_true, hvalid]

/-- To write a configuration file that is missing or blank spares what is there. -/
theorem renews_write (hname : Path.IsName name) (hfolder : FolderAt (folder.child configFolder) disk)
    (hunset : (ConfigKind.isUnset (configFile folder name) disk).result = .ok true)
    (h : disk.write (configFile folder name) content = .ok next) : Renews folder disk next := by
  obtain ⟨location, hlocate, -, rfl⟩ := put_of_write h
  obtain ⟨root, hroot, -⟩ := hfolder
  have hplace : InConfig folder disk location := ⟨root, name, hroot, eq_of_locate_child hname hroot hlocate⟩
  rcases blank_of_isUnset hunset hlocate with hnone | ⟨old, hold, hblank⟩
  · exact renews_put_new folder _ hnone
  · exact renews_put_blank _ hold hblank hplace

/-- Loading a configuration leaves a file from which it is read. -/
theorem leaves_load (hrenewable : kind.Renewable) (folder : Path) (hname : Path.IsName name) :
    Leaves folder (FolderAt (folder.child configFolder))
      (kind.load (configFile folder name))
      fun config => Holds kind (configFile folder name) config := by
  intro disk hfolder
  rw [ConfigKind.load]
  have hsilent := ConfigKind.silent_isUnset (configFile folder name)
  cases hunset : (ConfigKind.isUnset (configFile folder name) disk).result with
  | error fault =>
    refine .behind_error hunset ?_
    rw [(hsilent disk).1]
    exact .refl folder disk
  | ok unset =>
    refine .behind (hsilent.yields_iff.2 ⟨hunset, rfl, rfl⟩) (.refl folder disk) ?_
    cases unset with
    | true =>
      -- the folder that the file is written into is there, so nothing is made on the way
      rw [if_pos rfl, configFile, Path.parent_child hname, ← configFile]
      refine .behind hfolder.yields_ensureFolder (.refl folder disk) ?_
      cases hwrite : disk.write (configFile folder name)
          (.octets (Utf8.encode kind.defaultText)) with
      | error error =>
        obtain ⟨hresult, hstate⟩ := Disk.writeContent_of_error hwrite
        refine .behind_error hresult ?_
        rw [writeText, hstate]
        exact .refl folder disk
      | ok next =>
        have hyields := (Disk.yields_writeContent (u := ())).2 ⟨hwrite, rfl⟩
        refine .behind hyields (renews_write hname hfolder hunset hwrite) ?_
        refine leavesFrom_of_silent (Routine.silent_bind Routine.silent_say fun _ => Routine.silent_pure) ?_
        rintro config hr
        cases hr
        exact holds_of_write hrenewable hwrite
    | false =>
      obtain ⟨content, text, hread, htext, hblank⟩ := text_of_isUnset hunset
      have htextResult : (readText (configFile folder name) disk).result = .ok text := by
        rw [result_readText, hread]
        exact textResult_eq_ok.2 htext
      rw [if_neg Bool.false_ne_true]
      refine .behind ((silent_readText _).yields_iff.2 ⟨htextResult, rfl, rfl⟩) (.refl folder disk) ?_
      cases hvalid : kind.ofText text with
      | valid config =>
        refine leavesFrom_of_silent Routine.silent_pure ?_
        rintro other hr
        cases hr
        refine ⟨content, hread, not_isBlank htext hblank, ?_⟩
        rw [ConfigKind.verdict, htext]
        dsimp only
        rw [hblank, if_neg Bool.false_ne_true, hvalid]
      | invalid complaints => exact leavesFrom_of_error rfl (.refl folder disk)

/-- A configuration is read from the file that holds it, and nothing changes. -/
theorem Holds.yields_load (h : Holds kind path config disk) : (kind.load path).Yields disk config disk [] := by
  obtain ⟨content, hread, hblank, hverdict⟩ := h
  rw [ConfigKind.verdict] at hverdict
  cases htext : textOf? content with
  | none =>
    rw [htext] at hverdict
    cases hverdict
  | some text =>
    rw [htext] at hverdict
    have hnot : text.trim.isEmpty = false := Bool.eq_false_iff.2 fun h => hblank ⟨text, htext, h⟩
    have htextResult : (readText path disk).result = .ok text := by
      rw [result_readText, hread]
      exact textResult_eq_ok.2 htext
    have hunset : (ConfigKind.isUnset path disk).result = .ok false := by
      rw [result_isUnset, result_checkExists_iff.1 (result_checkExists_of_readText htextResult)]
      dsimp only [Except.mapError, Except.bind]
      rw [if_pos rfl, htextResult]
      exact congrArg Except.ok hnot
    refine ((ConfigKind.silent_isUnset path).yields_iff.2 ⟨hunset, rfl, rfl⟩).bind_same ?_
    refine ((silent_readText path).yields_iff.2 ⟨htextResult, rfl, rfl⟩).bind_same ?_
    dsimp only at hverdict
    rw [hnot, if_neg Bool.false_ne_true] at hverdict
    cases hvalid : kind.ofText text with
    | valid other =>
      rw [hvalid] at hverdict
      obtain rfl := Except.ok.inj hverdict
      exact Routine.yields_pure.2 ⟨rfl, rfl, rfl⟩
    | invalid complaints =>
      rw [hvalid] at hverdict
      cases hverdict

/-! ## Workspaces -/

/-- Everything that a workspace has to have. -/
structure Complete (folder : Path) (disk : Disk) : Prop where
  images : FolderAt (folder.child imagesFolder) disk
  logs : FolderAt (folder.child logsFolder) disk
  config : FolderAt (folder.child configFolder) disk
  credentials : ∃ credentials, Holds .credentials (credentialsFile folder) credentials disk
  intervals : ∃ intervals, Holds .intervals (intervalsFile folder) intervals disk
  script : disk.exists? (scriptFile folder) = .ok true

/-- A file is there or made. -/
theorem leaves_file (folder path : Path) :
    Leaves folder (fun _ => True) (do if ← checkExists path then return () else touchFile path)
      fun _ disk => disk.exists? path = .ok true := by
  intro disk _
  have hsilent := silent_checkExists path
  cases hthere : (checkExists path disk).result with
  | error fault =>
    refine .behind_error hthere ?_
    rw [(hsilent disk).1]
    exact .refl folder disk
  | ok there =>
    refine .behind (hsilent.yields_iff.2 ⟨hthere, rfl, rfl⟩) (.refl folder disk) ?_
    cases there with
    | true =>
      rw [if_pos rfl]
      exact leavesFrom_of_silent Routine.silent_pure fun _ _ => result_checkExists_iff.1 hthere
    | false =>
      rw [if_neg Bool.false_ne_true]
      cases htouch : disk.touch path with
      | error error =>
        obtain ⟨hresult, hstate⟩ := Disk.touchFile_of_error htouch
        refine leavesFrom_of_error hresult ?_
        rw [hstate]
        exact .refl folder disk
      | ok next =>
        have hyields := (Disk.yields_touchFile (u := ())).2 ⟨htouch, rfl⟩
        rw [LeavesFrom, hyields.state]
        exact ⟨renews_touch folder htouch, fun _ _ => exists_of_touch htouch⟩

/-- A folder that is made a workspace has everything then. -/
theorem leaves_prepare (folder : Path) :
    Leaves folder (fun _ => True) (prepare folder) fun _ => Complete folder := by
  -- what one step leaves lasts through those behind it, so all of it is there in the end
  have hanything : Lasts folder fun _ => True := fun _ _ _ h => h
  have himages := hanything.and (lasts_folderAt folder (folder.child imagesFolder))
  have hlogs := himages.and (lasts_folderAt folder (folder.child logsFolder))
  have hconfig := hlogs.and (lasts_folderAt folder (folder.child configFolder))
  refine (leaves_ensureFolder folder _).bind (fun _ _ => trivial) hanything fun _ => ?_
  refine (leaves_ensureFolder folder _).bind (fun _ _ => trivial) himages fun _ => ?_
  refine (leaves_ensureFolder folder _).bind (fun _ _ => trivial) hlogs fun _ => ?_
  refine (leaves_load ConfigKind.renewable_credentials folder Slot.credentials.isName).bind (fun _ h => h.2)
    hconfig fun credentials => ?_
  have hcredentials := hconfig.and (lasts_holds folder .credentials (credentialsFile folder) credentials)
  refine (leaves_load ConfigKind.renewable_intervals folder Slot.intervals.isName).bind (fun _ h => h.1.2)
    hcredentials fun intervals => ?_
  have hintervals := hcredentials.and (lasts_holds folder .intervals (intervalsFile folder) intervals)
  intro disk h
  obtain ⟨hrenews, hscript⟩ := leaves_file folder (scriptFile folder) disk trivial
  refine ⟨hrenews, fun done hr => ?_⟩
  obtain ⟨⟨⟨⟨⟨-, himages⟩, hlogs⟩, hconfig⟩, hcredentials⟩, hintervals⟩ := hintervals _ _ hrenews h
  exact ⟨himages, hlogs, hconfig, ⟨credentials, hcredentials⟩, ⟨intervals, hintervals⟩, hscript done hr⟩

theorem leaves_establish (folder : Path) :
    Leaves folder (fun _ => True) (establish folder) fun path disk => path = folder ∧ Complete folder disk :=
  (leaves_prepare folder).bind (fun _ h => h) (fun _ _ _ h => h) fun _ _ h =>
    leavesFrom_of_silent Routine.silent_pure fun _ hr => ⟨(Except.ok.inj hr).symm, h.2⟩

/-- Where everything is there, nothing is made. -/
theorem Complete.yields_prepare (h : Complete folder disk) : (prepare folder).Yields disk () disk [] := by
  obtain ⟨credentials, hcredentials⟩ := h.credentials
  obtain ⟨intervals, hintervals⟩ := h.intervals
  have hscript : (checkExists (scriptFile folder)).Yields disk true disk [] :=
    (silent_checkExists _).yields_iff.2 ⟨result_checkExists_iff.2 h.script, rfl, rfl⟩
  refine h.images.yields_ensureFolder.bind_same ?_
  refine h.logs.yields_ensureFolder.bind_same ?_
  refine h.config.yields_ensureFolder.bind_same ?_
  refine hcredentials.yields_load.bind_same ?_
  refine hintervals.yields_load.bind_same ?_
  exact hscript.bind_same (Routine.yields_pure.2 ⟨rfl, rfl, rfl⟩)

theorem Complete.yields_establish (h : Complete folder disk) : (establish folder).Yields disk folder disk [] :=
  h.yields_prepare.bind_same (Routine.yields_pure.2 ⟨rfl, rfl, rfl⟩)

/-! ## What making a workspace comes to -/

/-- Loading the configuration succeeds with these values and changes nothing, so it does the next time. -/
def Reads (kind : ConfigKind α) (path : Path) (config : α) (disk : Disk) : Prop :=
  (kind.load path disk).result = .ok config ∧ (kind.load path disk).state = disk

/-- To make the workspace again changes nothing, and its configurations are read. -/
structure IsLasting (folder : Path) (disk : Disk) : Prop where
  again : (establish folder disk).result = .ok folder ∧ (establish folder disk).state = disk
  credentials : ∃ credentials, Reads .credentials (credentialsFile folder) credentials disk
  intervals : ∃ intervals, Reads .intervals (intervalsFile folder) intervals disk

/-- Between two disks, files have been spared. -/
structure Spares (folder : Path) (disk disk' : Disk) : Prop where
  /-- a file that is not blank is as it was -/
  written : ∀ location content, disk.node? location = some (.file content) → ¬ content.IsBlank →
    disk'.node? location = some (.file content)
  /-- a file that is not in the folder for configuration files is as it was -/
  outside : ∀ location content, disk.node? location = some (.file content) →
    (∀ root, disk'.locate (folder.child configFolder) = .ok root → ¬ root <:+ location) →
    disk'.node? location = some (.file content)
  /-- a file of which no credentials can be made is as it was -/
  credentials : ∀ location content fault, disk'.locate (credentialsFile folder) = .ok location →
    disk.node? location = some (.file content) →
    ConfigKind.credentials.verdict (credentialsFile folder) (some content) = .error fault →
    disk'.node? location = some (.file content)
  /-- a file of which no intervals can be made is as it was -/
  intervals : ∀ location content fault, disk'.locate (intervalsFile folder) = .ok location →
    disk.node? location = some (.file content) →
    ConfigKind.intervals.verdict (intervalsFile folder) (some content) = .error fault →
    disk'.node? location = some (.file content)

/-- A file of which no configuration can be made is not blank. -/
theorem not_isBlank_of_verdict {fault : Fault} (h : kind.verdict path (some content) = .error fault) :
    ¬ content.IsBlank := by
  rintro ⟨text, htext, hblank⟩
  rw [ConfigKind.verdict, htext] at h
  dsimp only at h
  rw [if_pos hblank] at h
  cases h

theorem Renews.spares (h : Renews folder disk disk') : Spares folder disk disk' := by
  have hwritten : ∀ location content, disk.node? location = some (.file content) → ¬ content.IsBlank →
      disk'.node? location = some (.file content) :=
    fun location content hfile hblank => (h.file hfile).resolve_right fun hchanged => hblank hchanged.1
  refine ⟨hwritten, fun location content hfile houtside => ?_, ?_, ?_⟩
  · refine (h.file hfile).resolve_right ?_
    rintro ⟨-, root, name, hroot, rfl⟩
    exact houtside root hroot (List.suffix_cons name root)
  · exact fun location content fault _ hfile hverdict =>
      hwritten location content hfile (not_isBlank_of_verdict hverdict)
  · exact fun location content fault _ hfile hverdict =>
      hwritten location content hfile (not_isBlank_of_verdict hverdict)

/-- **A workspace is made once.** If a folder can be made a workspace, the result is its path, and to do it again
or to load its configurations changes nothing. Whether or not it can be, files are spared. -/
theorem establish_lasts_and_spares (folder : Path) (disk : Disk) :
    (∀ path, (establish folder disk).result = .ok path →
      path = folder ∧ IsLasting folder (establish folder disk).state) ∧
    Spares folder disk (establish folder disk).state := by
  obtain ⟨hrenews, hresult⟩ := leaves_establish folder disk trivial
  refine ⟨fun path hr => ?_, hrenews.spares⟩
  obtain ⟨hpath, hcomplete⟩ := hresult path hr
  have hagain := hcomplete.yields_establish
  obtain ⟨credentials, hcredentials⟩ := hcomplete.credentials
  obtain ⟨intervals, hintervals⟩ := hcomplete.intervals
  exact ⟨hpath, ⟨hagain.result, hagain.state⟩,
    ⟨credentials, hcredentials.yields_load.result, hcredentials.yields_load.state⟩,
    ⟨intervals, hintervals.yields_load.result, hintervals.yields_load.state⟩⟩

/-- A disk with blank credentials and a script, in a folder that is to be a workspace. -/
def begun : Disk where
  nodes := [(["work".toList], .folder), ([configFolder, "work".toList], .folder),
    (["credentials.json".toList, configFolder, "work".toList], .file (.octets (Utf8.encode " \n".toList))),
    (["script.txt".toList, "work".toList], .file (.octets (Utf8.encode "home".toList)))]

/-- It can be made one, which lasts, and the script is spared. -/
theorem establish_lasts_and_spares_begun :
    let folder := Path.ofText "work".toList
    let made := (establish folder begun).state
    (establish folder begun).result = .ok folder ∧ IsLasting folder made ∧
      made.node? ["script.txt".toList, "work".toList] = some (.file (.octets (Utf8.encode "home".toList))) := by
  intro folder made
  obtain ⟨hlasts, hspares⟩ := establish_lasts_and_spares folder begun
  have hresult : (establish folder begun).result = .ok folder :=
    Routine.result_of_toOption (by decide +kernel)
  refine ⟨hresult, (hlasts folder hresult).2, hspares.written _ _ (by decide +kernel) ?_⟩
  exact not_isBlank (by rfl : Disk.textOf? _ = some "home".toList) (by decide)

end Workspace

end ScreenScript
