import ScreenScript.Disk.Access
import ScreenScript.Proofs.Routine

/-!
# Reading what was written

A path leads to the same place as long as the folders on its way stay where they are, and writing a file
takes no folder away. So a file holds what was written into it last.

* `Disk.KeepsFolders` — no folder has gone
* `Disk.FolderAt` — a path leads to a folder, which making it does not change
* `Disk.read_of_write` — reading behind writing
* `Disk.yields_readContent`, `Disk.yields_writeContent` — the same for routines
-/

namespace ScreenScript.Disk

/-! ## Folders -/

/-- The second disk has the current folder of the first one, and all its folders. -/
structure KeepsFolders (disk disk' : Disk) : Prop where
  here : disk'.here = disk.here
  folder : ∀ location, disk.node? location = some .folder → disk'.node? location = some .folder

variable {disk disk' : Disk} {location : Location} {path : Path} {content : Content}

theorem KeepsFolders.refl (disk : Disk) : disk.KeepsFolders disk := ⟨rfl, fun _ => id⟩

theorem KeepsFolders.trans {between : Disk} (h : disk.KeepsFolders between) (h' : between.KeepsFolders disk') :
    disk.KeepsFolders disk' :=
  ⟨h'.here.trans h.here, fun location hfolder => h'.folder location (h.folder location hfolder)⟩

/-- The root is a folder. -/
theorem ne_nil_of_not_folder (h : disk.node? location ≠ some .folder) : location ≠ [] := by
  rintro rfl
  exact h rfl

theorem keepsFolders_put (node : Node) (h : disk.node? location ≠ some .folder) :
    disk.KeepsFolders (disk.put location node) := by
  refine ⟨rfl, fun place hplace => ?_⟩
  rw [node?_put disk place _ (ne_nil_of_not_folder h), if_neg, hplace]
  rintro rfl
  exact h hplace

/-- One step of a way: it starts at a folder, and goes up or down. -/
theorem walk_cons {name : Text} {rest : List Text} {start : Location} :
    disk.walk start (name :: rest) = .ok location ↔
      disk.node? start = some .folder ∧
        if name = "..".toList then disk.walk start.tail rest = .ok location
        else (Utf8.encode name).length ≤ maxName ∧ disk.walk (name :: start) rest = .ok location := by
  rw [walk]
  cases hnode : disk.node? start with
  | none => exact ⟨nofun, nofun⟩
  | some node =>
    cases node with
    | file content => exact ⟨nofun, nofun⟩
    | folder =>
      dsimp only
      split
      · exact ⟨fun h => ⟨rfl, h⟩, And.right⟩
      · split
        · next hlong => exact ⟨nofun, fun h => absurd h.2.1 (Nat.not_le.2 hlong)⟩
        · next hshort => exact ⟨fun h => ⟨rfl, Nat.le_of_not_lt hshort, h⟩, fun h => h.2.2⟩

theorem KeepsFolders.walk (h : disk.KeepsFolders disk') {names : List Text} {start : Location}
    (hwalk : disk.walk start names = .ok location) : disk'.walk start names = .ok location := by
  induction names generalizing start with
  | nil => exact hwalk
  | cons name rest ih =>
    rw [walk_cons] at hwalk ⊢
    obtain ⟨hfolder, hrest⟩ := hwalk
    refine ⟨h.folder start hfolder, ?_⟩
    split at hrest
    · next hup =>
      rw [if_pos hup]
      exact ih hrest
    · next hup =>
      rw [if_neg hup]
      exact ⟨hrest.1, ih hrest.2⟩

/-- Where folders stay, paths lead where they did. -/
theorem KeepsFolders.locate (h : disk.KeepsFolders disk') (hlocate : disk.locate path = .ok location) :
    disk'.locate path = .ok location := by
  rw [Disk.locate] at hlocate ⊢
  split at hlocate
  · cases hlocate
  · next hnull =>
    rw [if_neg hnull]
    split at hlocate
    · cases hlocate
    · next hlong =>
      rw [if_neg hlong, h.here]
      exact h.walk hlocate

/-- The path leads to a folder. -/
def FolderAt (path : Path) (disk : Disk) : Prop :=
  ∃ location, disk.locate path = .ok location ∧ disk.node? location = some .folder

theorem FolderAt.keep (h : FolderAt path disk) (hkeeps : disk.KeepsFolders disk') : FolderAt path disk' := by
  obtain ⟨location, hlocate, hfolder⟩ := h
  exact ⟨location, hkeeps.locate hlocate, hkeeps.folder location hfolder⟩

/-! ## Files -/

/-- What writing does: a file is put where the path leads, and there was no folder before. -/
theorem put_of_write (h : disk.write path content = .ok disk') :
    ∃ location, disk.locate path = .ok location ∧ disk.node? location ≠ some .folder ∧
      disk' = disk.put location (.file content) := by
  rw [write] at h
  cases hlocate : disk.locate path with
  | error fault =>
    rw [hlocate] at h
    cases h
  | ok location =>
    rw [hlocate] at h
    dsimp only at h
    split at h
    · cases h
    · next hnode => exact ⟨location, rfl, hnode, (Except.ok.inj h).symm⟩

/-- What making a folder does: nothing if it is there, or it is put where the path leads and nothing was. -/
theorem put_of_makeFolder (h : disk.makeFolder path = .ok disk') :
    ∃ location, disk.locate path = .ok location ∧
      (disk.node? location = some .folder ∧ disk' = disk ∨
        disk.node? location = none ∧ disk' = disk.put location .folder) := by
  rw [makeFolder] at h
  cases hlocate : disk.locate path with
  | error fault =>
    rw [hlocate] at h
    cases h
  | ok location =>
    rw [hlocate] at h
    refine ⟨location, rfl, ?_⟩
    dsimp only at h
    split at h
    · next hfolder => exact .inl ⟨hfolder, (Except.ok.inj h).symm⟩
    · cases h
    · next hnone => exact .inr ⟨hnone, (Except.ok.inj h).symm⟩

/-- Where a folder has been made there is one. -/
theorem folderAt_of_makeFolder (h : disk.makeFolder path = .ok disk') : FolderAt path disk' := by
  obtain ⟨location, hlocate, ⟨hfolder, rfl⟩ | ⟨hnone, rfl⟩⟩ := put_of_makeFolder h
  · exact ⟨location, hlocate, hfolder⟩
  · have hnode : disk.node? location ≠ some .folder := by simp [hnone]
    refine ⟨location, (keepsFolders_put _ hnode).locate hlocate, ?_⟩
    rw [node?_put disk location _ (ne_nil_of_not_folder hnode), if_pos rfl]

theorem folderAt_of_makeFoldersFrom {start : PathStart} {up : List Text}
    (h : makeFoldersFrom start up disk = (.ok (), disk')) : FolderAt ⟨start, up.reverse⟩ disk' := by
  cases up with
  | nil =>
    rw [makeFoldersFrom] at h
    split at h
    · next made hmake =>
      cases h
      exact folderAt_of_makeFolder hmake
    · cases h
  | cons name up =>
    rw [makeFoldersFrom] at h
    split at h
    · next made hmake =>
      cases h
      exact folderAt_of_makeFolder hmake
    · split at h
      · split at h
        · cases h
        · split at h
          · next last hmake =>
            cases h
            exact folderAt_of_makeFolder hmake
          · cases h
      · cases h

/-- A folder that is there is not made again. -/
theorem FolderAt.makeFolder (h : FolderAt path disk) : disk.makeFolder path = .ok disk := by
  obtain ⟨location, hlocate, hfolder⟩ := h
  rw [Disk.makeFolder, hlocate]
  dsimp only
  rw [hfolder]

theorem makeFolders_of_makeFolder (h : disk.makeFolder path = .ok disk') :
    disk.makeFolders path = (.ok (), disk') := by
  rw [makeFolders]
  cases hnames : path.names.reverse with
  | nil =>
    have hpath : (⟨path.start, []⟩ : Path) = path := by
      rw [← List.reverse_eq_nil_iff.1 hnames]
    rw [makeFoldersFrom, hpath, h]
  | cons name up =>
    have hpath : (⟨path.start, (name :: up).reverse⟩ : Path) = path := by
      rw [← hnames, List.reverse_reverse]
    rw [makeFoldersFrom, hpath, h]

theorem FolderAt.makeFolders (h : FolderAt path disk) : disk.makeFolders path = (.ok (), disk) :=
  makeFolders_of_makeFolder h.makeFolder

/-- Where folders have been made there is one. -/
theorem folderAt_of_makeFolders (h : disk.makeFolders path = (.ok (), disk')) : FolderAt path disk' := by
  have hfolder := folderAt_of_makeFoldersFrom (show makeFoldersFrom path.start path.names.reverse disk = _ from h)
  rwa [List.reverse_reverse] at hfolder

/-- What touching does: nothing if something is there, or an empty file is put where the path leads. -/
theorem put_of_touch (h : disk.touch path = .ok disk') :
    ∃ location, disk.locate path = .ok location ∧
      ((disk.node? location).isSome ∧ disk' = disk ∨
        disk.node? location = none ∧ disk' = disk.put location (.file (.octets []))) := by
  rw [touch] at h
  cases hlocate : disk.locate path with
  | error fault =>
    rw [hlocate] at h
    cases h
  | ok location =>
    rw [hlocate] at h
    refine ⟨location, rfl, ?_⟩
    dsimp only at h
    cases hnode : disk.node? location with
    | none =>
      rw [hnode] at h
      exact .inr ⟨rfl, (Except.ok.inj h).symm⟩
    | some node =>
      rw [hnode] at h
      exact .inl ⟨rfl, (Except.ok.inj h).symm⟩

/-- What has been touched is there. -/
theorem exists_of_touch (h : disk.touch path = .ok disk') : disk'.exists? path = .ok true := by
  obtain ⟨location, hlocate, ⟨hsome, rfl⟩ | ⟨hnone, rfl⟩⟩ := put_of_touch h
  · rw [exists?, hlocate]
    exact congrArg Except.ok hsome
  · have hnode : disk.node? location ≠ some .folder := by simp [hnone]
    rw [exists?, (keepsFolders_put _ hnode).locate hlocate]
    dsimp only
    rw [node?_put disk location _ (ne_nil_of_not_folder hnode), if_pos rfl]
    rfl

/-- A file holds what was written into it last. -/
theorem read_of_write (h : disk.write path content = .ok disk') : disk'.read path = .ok content := by
  obtain ⟨location, hlocate, hnode, rfl⟩ := put_of_write h
  rw [read, (keepsFolders_put _ hnode).locate hlocate]
  dsimp only
  rw [node?_put disk location _ (ne_nil_of_not_folder hnode), if_pos rfl]

/-- What is read is a file, where the path leads. -/
theorem file_of_read (h : disk.read path = .ok content) :
    ∃ location, disk.locate path = .ok location ∧ disk.node? location = some (.file content) := by
  rw [read] at h
  cases hlocate : disk.locate path with
  | error fault =>
    rw [hlocate] at h
    cases h
  | ok location =>
    rw [hlocate] at h
    dsimp only at h
    split at h
    · next hnode => exact ⟨location, rfl, Except.ok.inj h ▸ hnode⟩
    · cases h
    · cases h

/-! ## Routines -/

theorem silent_checkExists (path : Path) : (checkExists path).Silent :=
  Routine.silent_bind Routine.silent_get fun _ => Routine.silent_ofExcept

theorem result_checkExists (path : Path) (disk : Disk) :
    (checkExists path disk).result = (disk.exists? path).mapError .file := by
  rw [checkExists, Routine.silent_get.result_bind_of_ok rfl]
  exact Routine.result_ofExcept .file (disk.exists? path) disk

theorem result_checkExists_iff {there : Bool} :
    (checkExists path disk).result = .ok there ↔ disk.exists? path = .ok there := by
  rw [checkExists, Routine.silent_get.result_bind_of_ok rfl]
  exact Routine.result_ofExcept_iff

theorem silent_readContent (path : Path) : (readContent path).Silent :=
  Routine.silent_bind Routine.silent_get fun _ => Routine.silent_ofExcept

theorem silent_readText (path : Path) : (readText path).Silent := by
  refine Routine.silent_bind (silent_readContent path) fun content => ?_
  split
  · exact Routine.silent_pure
  · exact Routine.silent_fail

/-- A file that can be read is there. -/
theorem result_checkExists_of_readText {t : Text} (h : (readText path disk).result = .ok t) :
    (checkExists path disk).result = .ok true := by
  obtain ⟨content, hcontent, -⟩ := (silent_readContent path).result_bind_iff.1 h
  obtain ⟨_, ⟨rfl⟩, hread⟩ := Routine.silent_get.result_bind_iff.1 hcontent
  refine Routine.silent_get.result_bind_iff.2 ⟨disk, rfl, ?_⟩
  rw [read] at hread
  rw [exists?]
  cases hlocate : disk.locate path with
  | error fault =>
    rw [hlocate] at hread
    cases hread
  | ok location =>
    rw [hlocate] at hread
    dsimp only at hread ⊢
    cases hnode : disk.node? location with
    | none =>
      rw [hnode] at hread
      cases hread
    | some node => rfl

theorem quiet_update {f : Disk → Except FileError Disk} :
    (do Routine.set (← toRoutine (f (← Routine.get)))).Quiet := by
  refine Routine.emits_bind Routine.silent_get.emits fun disk => ?_
  exact Routine.emits_bind Routine.silent_ofExcept.emits fun _ => Routine.emits_set

theorem quiet_writeContent (path : Path) (content : Content) : (writeContent path content).Quiet :=
  quiet_update

theorem quiet_writeText (path : Path) (t : Text) : (writeText path t).Quiet := quiet_update

theorem quiet_touchFile (path : Path) : (touchFile path).Quiet := quiet_update

theorem quiet_ensureFile (path : Path) : (ensureFile path).Quiet := quiet_update

theorem quiet_ensureFolder (path : Path) : (ensureFolder path).Quiet := by
  refine Routine.emits_bind Routine.silent_get.emits fun disk => ?_
  exact Routine.emits_bind Routine.emits_set fun _ => Routine.silent_ofExcept.emits

theorem yields_readContent {events : List Event} :
    (readContent path).Yields disk content disk' events ↔
      disk.read path = .ok content ∧ disk' = disk ∧ events = [] := by
  rw [readContent, Routine.yields_get_bind, toRoutine, Routine.yields_ofExcept]

/-- A routine that puts another disk in the place of the one there is yields it if there is one. -/
theorem yields_update {f : Disk → Except FileError Disk} {u : Unit} {events : List Event} :
    (do Routine.set (← toRoutine (f (← Routine.get)))).Yields disk u disk' events ↔
      f disk = .ok disk' ∧ events = [] := by
  rw [Routine.yields_get_bind, Routine.yields_bind]
  constructor
  · rintro ⟨written, s₁, earlier, later, hwrite, hset, rfl⟩
    obtain ⟨hwritten, rfl, rfl⟩ := Routine.yields_ofExcept.1 hwrite
    obtain ⟨rfl, rfl⟩ := Routine.yields_set.1 hset
    exact ⟨hwritten, rfl⟩
  · rintro ⟨h, rfl⟩
    exact ⟨disk', disk, [], [], Routine.yields_ofExcept.2 ⟨h, rfl, rfl⟩,
      Routine.yields_set.2 ⟨rfl, rfl⟩, rfl⟩

/-- If there is none, it breaks off and leaves the disk as it is. -/
theorem update_of_error {f : Disk → Except FileError Disk} {error : FileError} (h : f disk = .error error) :
    ((do Routine.set (← toRoutine (f (← Routine.get))) : Routine Disk Unit) disk).result = .error (.file error) ∧
      ((do Routine.set (← toRoutine (f (← Routine.get))) : Routine Disk Unit) disk).state = disk := by
  have happly : (do Routine.set (← toRoutine (f (← Routine.get))) : Routine Disk Unit) disk =
      (do Routine.set (← toRoutine (f disk)) : Routine Disk Unit) disk := rfl
  rw [happly, h]
  exact ⟨rfl, rfl⟩

theorem yields_writeContent {u : Unit} {events : List Event} :
    (writeContent path content).Yields disk u disk' events ↔
      disk.write path content = .ok disk' ∧ events = [] :=
  yields_update

theorem writeContent_of_error {error : FileError} (h : disk.write path content = .error error) :
    (writeContent path content disk).result = .error (.file error) ∧
      (writeContent path content disk).state = disk :=
  update_of_error h

theorem yields_touchFile {u : Unit} {events : List Event} :
    (touchFile path).Yields disk u disk' events ↔ disk.touch path = .ok disk' ∧ events = [] :=
  yields_update

theorem touchFile_of_error {error : FileError} (h : disk.touch path = .error error) :
    (touchFile path disk).result = .error (.file error) ∧ (touchFile path disk).state = disk :=
  update_of_error h

theorem yields_ensureFolder {u : Unit} {events : List Event} :
    (ensureFolder path).Yields disk u disk' events ↔
      disk.makeFolders path = (.ok (), disk') ∧ events = [] := by
  rw [ensureFolder, Routine.yields_get_bind]
  obtain ⟨made, next⟩ := disk.makeFolders path
  dsimp only
  rw [Routine.yields_set_bind, toRoutine, Routine.yields_ofExcept]
  constructor
  · rintro ⟨rfl, rfl, rfl⟩
    exact ⟨rfl, rfl⟩
  · rintro ⟨heq, rfl⟩
    obtain ⟨rfl, rfl⟩ := Prod.mk.inj heq
    exact ⟨rfl, rfl, rfl⟩

end ScreenScript.Disk
