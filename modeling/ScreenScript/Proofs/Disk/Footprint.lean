import ScreenScript.Device.Basic
import ScreenScript.Proofs.Disk.Ways

/-!
# What writing to a path changes

To make the folders on the way to a path, and to write the file that it leads to, changes nothing but what is
at the places that the beginnings of the path lead to. Where names never lead above a folder, these places
are in it.

* `Disk.ChangesAlong` — nothing has changed but on the way of a path
* `Routine.Follows` — a routine that changes nothing else, whatever comes of it
* `Path.StaysBelow`, `Disk.suffix_of_walk` — names that never lead above where they start
* `Disk.ChangesAlong.suffix`, `Disk.below_of_read` — what changes in a folder stays in it, and what is read
-/

namespace ScreenScript

namespace Disk

/-! ## Changes -/

/-- All folders are where they were, and every place that has changed is one to which a beginning of the path
leads. -/
structure ChangesAlong (path : Path) (disk disk' : Disk) : Prop where
  keeps : disk.KeepsFolders disk'
  along : ∀ location, disk'.node? location ≠ disk.node? location →
    ∃ names, names <+: path.names ∧ disk'.locate { path with names } = .ok location

variable {path : Path} {disk disk' disk₁ : Disk} {location : Location} {content : Content}

theorem ChangesAlong.refl (path : Path) (disk : Disk) : disk.ChangesAlong path disk :=
  ⟨.refl disk, fun _ h => absurd rfl h⟩

theorem ChangesAlong.trans (h : ChangesAlong path disk disk₁) (h' : ChangesAlong path disk₁ disk') :
    ChangesAlong path disk disk' := by
  refine ⟨h.keeps.trans h'.keeps, fun location hchanged => ?_⟩
  by_cases hlater : disk'.node? location = disk₁.node? location
  · -- it has changed before, and the path still leads there
    rw [hlater] at hchanged
    obtain ⟨names, hnames, hlocate⟩ := h.along location hchanged
    exact ⟨names, hnames, h'.keeps.locate hlocate⟩
  · exact h'.along location hlater

/-- A node is put where a beginning of the path leads, and there was no folder before. -/
theorem changesAlong_put {names : List Text} (hnames : names <+: path.names)
    (hlocate : disk.locate { path with names } = .ok location)
    (hnode : disk.node? location ≠ some .folder) (node : Node) :
    ChangesAlong path disk (disk.put location node) := by
  have hkeeps := keepsFolders_put node hnode
  refine ⟨hkeeps, fun place hchanged => ⟨names, hnames, ?_⟩⟩
  rw [node?_put disk place node (ne_nil_of_not_folder hnode)] at hchanged
  split at hchanged
  · next hplace =>
    rw [hplace]
    exact hkeeps.locate hlocate
  · exact absurd rfl hchanged

theorem changesAlong_write (h : disk.write path content = .ok disk') : ChangesAlong path disk disk' := by
  obtain ⟨location, hlocate, hnode, rfl⟩ := put_of_write h
  exact changesAlong_put (List.prefix_refl path.names) hlocate hnode _

/-- A folder is made where a beginning of the path leads, unless there is one. -/
theorem changesAlong_makeFolder {names : List Text} (hnames : names <+: path.names)
    (h : disk.makeFolder { path with names } = .ok disk') : ChangesAlong path disk disk' := by
  obtain ⟨location, hlocate, ⟨-, rfl⟩ | ⟨hnone, rfl⟩⟩ := put_of_makeFolder h
  · exact .refl path disk'
  · exact changesAlong_put hnames hlocate (by rw [hnone]; nofun) _

/-- Making the folders on the way to a beginning of the path. -/
theorem changesAlong_makeFoldersFrom {up : List Text} (hup : up.reverse <+: path.names) :
    ChangesAlong path disk (makeFoldersFrom path.start up disk).2 := by
  induction up generalizing disk with
  | nil =>
    rw [makeFoldersFrom]
    split
    · next made hmake => exact changesAlong_makeFolder hup hmake
    · exact .refl path disk
  | cons name up ih =>
    have hbefore : up.reverse <+: path.names := by
      rw [List.reverse_cons] at hup
      exact (List.prefix_append _ _).trans hup
    rw [makeFoldersFrom]
    split
    · next made hmake => exact changesAlong_makeFolder hup hmake
    · split
      · -- the folders around it come first
        have haround : ChangesAlong path disk (makeFoldersFrom path.start up disk).2 := ih hbefore
        split
        · next heq =>
          rw [heq] at haround
          exact haround
        · next made heq =>
          rw [heq] at haround
          split
          · next last hmake => exact haround.trans (changesAlong_makeFolder hup hmake)
          · exact haround
      · exact .refl path disk

end Disk

/-! ## Routines -/

namespace Routine

variable {σ α β : Type} {part : σ → Disk} {path : Path}

/-- Whatever comes of the routine, nothing on the disk changes but along the path. -/
def Follows (part : σ → Disk) (path : Path) (m : Routine σ α) : Prop :=
  ∀ s, Disk.ChangesAlong path (part s) (part (m s).state)

theorem Silent.follows {m : Routine σ α} (h : m.Silent) : m.Follows part path := by
  intro s
  rw [(h s).1]
  exact .refl path _

theorem follows_bind {m : Routine σ β} {f : β → Routine σ α} (hm : m.Follows part path)
    (hf : ∀ b, (f b).Follows part path) : (m >>= f).Follows part path := by
  intro s
  cases hr : (m s).result with
  | error fault =>
    rw [bind_of_error hr]
    exact hm s
  | ok b =>
    rw [bind_of_ok hr]
    exact (hm s).trans (hf b (m s).state)

theorem follows_attempt {m : Routine σ α} (h : m.Follows part path) (caught : Fault → Option β) :
    (m.attempt caught).Follows part path := by
  intro s
  rw [state_attempt]
  exact h s

theorem follows_onDisk {δ : Type} {m : Routine Disk α} (h : m.Follows id path) :
    (Site.onDisk m : Routine (Site δ) α).Follows Site.disk path :=
  fun site => h site.disk

theorem follows_onDevice {δ : Type} (m : Routine δ α) : (Site.onDevice m).Follows Site.disk path :=
  fun site => .refl path site.disk

end Routine

namespace Disk

theorem follows_writeContent (path : Path) (content : Content) :
    (writeContent path content).Follows id path := by
  intro disk
  rw [id, id, writeContent, Routine.bind_of_ok (by rfl)]
  change ChangesAlong path disk
    ((do Routine.set (← toRoutine (disk.write path content))) disk).state
  cases hwrite : disk.write path content with
  | ok next => exact changesAlong_write hwrite
  | error error => exact .refl path disk

theorem state_ensureFolder (path : Path) (disk : Disk) :
    (ensureFolder path disk).state = (disk.makeFolders path).2 := by
  rw [ensureFolder, Routine.bind_of_ok (by rfl)]
  change ((do
    Routine.set (disk.makeFolders path).2
    toRoutine (disk.makeFolders path).1) disk).state = _
  rw [Routine.bind_of_ok (by rfl)]
  cases (disk.makeFolders path).1 <;> rfl

theorem follows_ensureFolder (path : Path) : (ensureFolder path.parent).Follows id path := by
  intro disk
  rw [id, id, state_ensureFolder]
  refine changesAlong_makeFoldersFrom ?_
  rw [List.reverse_reverse]
  exact List.dropLast_prefix path.names

end Disk

/-! ## Names that stay below -/

/-- Names that start `depth` names below a folder never lead above it. -/
def Path.StaysBelow : Nat → List Text → Prop
  | _, [] => True
  | depth, name :: rest =>
    if name = "..".toList then ∃ up, depth = up + 1 ∧ Path.StaysBelow up rest
    else Path.StaysBelow (depth + 1) rest

namespace Path

/-- Names without any `..` never lead up. -/
theorem staysBelow_of_not_mem {names : List Text} (h : "..".toList ∉ names) (depth : Nat) :
    StaysBelow depth names := by
  induction names generalizing depth with
  | nil => trivial
  | cons name rest ih =>
    have hname : name ≠ "..".toList := fun heq => h (heq ▸ List.mem_cons_self)
    rw [StaysBelow, if_neg hname]
    exact ih (fun hmem => h (List.mem_cons_of_mem name hmem)) (depth + 1)

theorem StaysBelow.take {depth : Nat} {names beginning : List Text} (h : StaysBelow depth names)
    (hbegins : beginning <+: names) : StaysBelow depth beginning := by
  induction beginning generalizing depth names with
  | nil => trivial
  | cons name beginning ih =>
    cases names with
    | nil => simp at hbegins
    | cons other names =>
      obtain ⟨rfl, hrest⟩ := List.cons_prefix_cons.1 hbegins
      rw [StaysBelow] at h ⊢
      split at h
      · next hup =>
        obtain ⟨up, rfl, h⟩ := h
        rw [if_pos hup]
        exact ⟨up, rfl, ih h hrest⟩
      · next hup =>
        rw [if_neg hup]
        exact ih h hrest

end Path

namespace Disk

variable {disk : Disk} {start location : Location}

theorem walk_append (disk : Disk) (start : Location) (xs ys : List Text) :
    disk.walk start (xs ++ ys) = (disk.walk start xs).bind fun middle => disk.walk middle ys := by
  induction xs generalizing start with
  | nil => rfl
  | cons name xs ih =>
    rw [List.cons_append, walk, walk]
    cases disk.node? start with
    | none => rfl
    | some node =>
      cases node with
      | file content => rfl
      | folder =>
        dsimp only
        split
        · exact ih _
        · split
          · rfl
          · exact ih _

/-- What is on the way to a folder is a folder. -/
theorem folder_of_walk {names : List Text} (hwalk : disk.walk start names = .ok location)
    (hfolder : disk.node? location = some .folder) : disk.node? start = some .folder := by
  cases names with
  | nil => exact Except.ok.inj hwalk ▸ hfolder
  | cons name rest => exact (walk_cons.1 hwalk).1

/-- Names that stay below a folder lead to a place in it. -/
theorem suffix_of_walk {base : Location} {names : List Text} (up : Location)
    (h : Path.StaysBelow up.length names) (hwalk : disk.walk (up ++ base) names = .ok location) :
    base <:+ location := by
  induction names generalizing up with
  | nil =>
    obtain rfl := Except.ok.inj hwalk
    exact List.suffix_append up base
  | cons name rest ih =>
    rw [Path.StaysBelow] at h
    rw [walk_cons] at hwalk
    obtain ⟨-, hrest⟩ := hwalk
    split at h
    · next hup =>
      rw [if_pos hup] at hrest
      obtain ⟨depth, hlength, h⟩ := h
      cases up with
      | nil => cases hlength
      | cons first up =>
        obtain rfl : up.length = depth := Nat.succ.inj hlength
        exact ih up h hrest
    · next hup =>
      rw [if_neg hup] at hrest
      exact ih (name :: up) h hrest.2

/-! ## Changes in a folder -/

variable {folder : Path} {root : Location} {name : Text} {below : List Text}

/-- What is behind a name in a folder, on the way from there. -/
theorem walk_of_locate_behind (hroot : disk.locate folder = .ok root) (hname : name ≠ "..".toList)
    (hlocate : disk.locate { folder with names := folder.names ++ name :: below } = .ok location) :
    disk.walk (name :: root) below = .ok location := by
  have hwalk := walk_of_locate hlocate
  rw [walk_append, walk_of_locate hroot] at hwalk
  have hcons := (walk_cons.1 hwalk).2
  rw [if_neg hname] at hcons
  exact hcons.2

/-- A path that goes on behind a name in a folder, and stays below there, leads to a place in that. -/
theorem suffix_of_locate (hroot : disk.locate folder = .ok root) (hname : name ≠ "..".toList)
    (hbelow : Path.StaysBelow 0 below)
    (hlocate : disk.locate { folder with names := folder.names ++ name :: below } = .ok location) :
    name :: root <:+ location :=
  suffix_of_walk [] hbelow (walk_of_locate_behind hroot hname hlocate)

/-- What is read along such a path is a file behind the place that the name leads to, not at it. -/
theorem below_of_read {content : Content} (hroot : disk.locate folder = .ok root)
    (hname : name ≠ "..".toList) (hbelow : Path.StaysBelow 0 below) (hnames : below ≠ [])
    (hread : disk.read { folder with names := folder.names ++ name :: below } = .ok content) :
    ∃ location, disk.locate { folder with names := folder.names ++ name :: below } = .ok location ∧
      name :: root <:+ location ∧ location ≠ name :: root := by
  obtain ⟨location, hlocate, hnode⟩ := file_of_read hread
  refine ⟨location, hlocate, suffix_of_locate hroot hname hbelow hlocate, ?_⟩
  rintro rfl
  -- the way goes on there, so a folder would be in the place of the file
  have hwalk := walk_of_locate_behind hroot hname hlocate
  obtain ⟨first, rest, rfl⟩ := List.exists_cons_of_ne_nil hnames
  rw [(walk_cons.1 hwalk).1] at hnode
  cases hnode

/-- Where a folder is there, what changes along a path that goes on behind a name in it, and stays below
there, is in that. -/
theorem ChangesAlong.suffix {disk' : Disk}
    (h : ChangesAlong { folder with names := folder.names ++ name :: below } disk disk')
    (hroot : disk.locate folder = .ok root) (hfolder : disk.node? root = some .folder)
    (hname : name ≠ "..".toList) (hbelow : Path.StaysBelow 0 below)
    (hchanged : disk'.node? location ≠ disk.node? location) : name :: root <:+ location := by
  -- a folder that was there has not changed
  have hstays {place : Location} (hplace : disk.node? place = some .folder) : location ≠ place := by
    rintro rfl
    exact hchanged ((h.keeps.folder _ hplace).trans hplace.symm)
  obtain ⟨names, ⟨after, hafter⟩, hlocate⟩ := h.along location hchanged
  rcases List.append_eq_append_iff.1 hafter with ⟨rest, hrest, -⟩ | ⟨rest, hnames, hrest⟩
  · -- the beginning ends on the way to the folder
    have hwalk := walk_of_locate hroot
    rw [hrest, walk_append] at hwalk
    cases hmiddle : disk.walk (if folder.start = .here then disk.here else []) names with
    | error fault =>
      rw [hmiddle] at hwalk
      cases hwalk
    | ok middle =>
      rw [hmiddle] at hwalk
      have hlater := walk_of_locate hlocate
      rw [h.keeps.here, h.keeps.walk hmiddle] at hlater
      exact absurd (Except.ok.inj hlater).symm (hstays (folder_of_walk hwalk hfolder))
  · rw [hnames] at hlocate
    cases rest with
    | nil =>
      rw [List.append_nil, h.keeps.locate hroot] at hlocate
      exact absurd (Except.ok.inj hlocate).symm (hstays hfolder)
    | cons first rest =>
      obtain ⟨rfl, rfl⟩ := List.cons.inj hrest
      exact suffix_of_locate (h.keeps.locate hroot) hname (hbelow.take (List.prefix_append _ _)) hlocate

end Disk

end ScreenScript
