import ScreenScript.Proofs.Disk.Access

/-!
# Ways to the files of a folder

Behind the path of a folder, a name leads to what has this name in the folder, unless the path gets too
long.

* `Path.IsName` — a text that is a single name
* `Path.child_eq`, `Path.parent_child` — the path of a name in a folder
* `Disk.locate_child` — where it leads
-/

namespace ScreenScript

namespace Path

/-! ## Names -/

/-- The text is a single name that a file or folder can have. -/
structure IsName (name : Text) : Prop where
  path : ofText name = { names := [name] }
  noUp : name ≠ "..".toList
  noNull : name.elem '\x00' = false
  short : (Utf8.encode name).length ≤ Disk.maxName

variable {path : Path} {name : Text}

theorem child_eq (h : IsName name) : path.child name = { path with names := path.names ++ [name] } := by
  rw [child, h.path, join, if_pos rfl]

theorem parent_child (h : IsName name) : (path.child name).parent = path := by
  rw [child_eq h, parent, List.dropLast_concat]

/-- Names that go down only stay as they are. -/
theorem climb_of_down {names : List Text} (h : "..".toList ∉ names) (up : List Text) :
    climb up names = names.reverse ++ up := by
  induction names generalizing up with
  | nil => rfl
  | cons first rest ih =>
    rw [List.mem_cons, not_or] at h
    rw [climb, if_neg (Ne.symm h.1), ih h.2, List.reverse_cons, List.append_assoc, List.singleton_append]

/-- A path from the root that goes down only stays as it is. -/
theorem absolute_of_down (hstart : path.start ≠ .here) (hdown : "..".toList ∉ path.names) (here : List Text) :
    path.absolute here = path := by
  have hnames : (climb [] path.names).reverse = path.names := by
    rw [climb_of_down hdown, List.append_nil, List.reverse_reverse]
  obtain ⟨start, names⟩ := path
  cases start with
  | here => exact absurd rfl hstart
  | root => exact congrArg (Path.mk .root) hnames
  | twoSlashes => exact congrArg (Path.mk .twoSlashes) hnames

/-! ## Texts -/

/-- The text of a path, which is empty for the current folder. -/
def rawText (path : Path) : Text := startText path.start ++ ['/'].intercalate path.names

theorem toText_eq (path : Path) : path.toText = if path.rawText = [] then ['.'] else path.rawText := by
  rw [toText, rawText]
  split
  · next heq => rw [if_pos heq]
  · next hne => rw [if_neg fun heq => hne heq]

theorem intercalate_concat (names : List Text) (name : Text) :
    ['/'].intercalate (names ++ [name]) =
      ['/'].intercalate names ++ (if names = [] then [] else ['/']) ++ name := by
  induction names with
  | nil => rw [List.nil_append, List.intercalate_singleton, List.intercalate_nil, if_pos rfl]; rfl
  | cons first rest ih =>
    rw [if_neg (List.cons_ne_nil first rest)]
    cases rest with
    | nil => rw [List.singleton_append, List.intercalate_cons_cons, List.intercalate_singleton,
        List.intercalate_singleton]
    | cons second rest =>
      rw [if_neg (List.cons_ne_nil second rest)] at ih
      rw [List.cons_append, List.cons_append, List.intercalate_cons_cons, ← List.cons_append, ih,
        List.intercalate_cons_cons]
      simp only [List.append_assoc]

theorem rawText_child (h : IsName name) :
    (path.child name).rawText = path.rawText ++ (if path.names = [] then [] else ['/']) ++ name := by
  rw [child_eq h, rawText, rawText, intercalate_concat]
  simp only [List.append_assoc]

/-- The text of a child holds no other characters than those of the path and the name, and a slash. -/
theorem toText_child (path : Path) (h : IsName name) :
    ∃ between, (path.child name).toText = path.rawText ++ between ++ name ∧
      (between = [] ∨ between = ['/']) := by
  have hname : name ≠ [] := by
    rintro rfl
    have hpath := h.path
    simp [ofText, Text.fields] at hpath
  rw [toText_eq, rawText_child h, if_neg (by simp [hname])]
  refine ⟨_, rfl, ?_⟩
  split
  · exact .inl rfl
  · exact .inr rfl

theorem length_encode_rawText (path : Path) :
    (Utf8.encode path.rawText).length ≤ (Utf8.encode path.toText).length := by
  rw [toText_eq]
  split
  · next hraw =>
    rw [hraw]
    exact Nat.zero_le _
  · exact Nat.le_refl _

theorem elem_rawText (h : path.toText.elem '\x00' = false) : path.rawText.elem '\x00' = false := by
  rw [toText_eq] at h
  split at h
  · next hraw =>
    rw [hraw]
    rfl
  · exact h

theorem length_encode_child (path : Path) (h : IsName name) :
    (Utf8.encode (path.child name).toText).length ≤
      (Utf8.encode path.toText).length + 1 + (Utf8.encode name).length := by
  obtain ⟨between, htext, hbetween⟩ := toText_child path h
  have hshort : (Utf8.encode between).length ≤ 1 := by
    rcases hbetween with rfl | rfl
    · exact Nat.zero_le 1
    · decide
  have hraw := length_encode_rawText path
  rw [htext, Utf8.encode, List.flatMap_append, List.flatMap_append, List.length_append,
    List.length_append]
  change (Utf8.encode path.rawText).length + (Utf8.encode between).length + (Utf8.encode name).length ≤ _
  omega

theorem elem_child (h : IsName name) (hnull : path.toText.elem '\x00' = false) :
    (path.child name).toText.elem '\x00' = false := by
  obtain ⟨between, htext, hbetween⟩ := toText_child path h
  have hraw := elem_rawText hnull
  have hname := h.noNull
  rw [htext]
  rcases hbetween with rfl | rfl <;> simp_all

end Path

namespace Disk

variable {disk : Disk} {path : Path} {name : Text} {start location : Location} {names : List Text}

/-! ## Ways -/

theorem walk_concat (hwalk : disk.walk start names = .ok location)
    (hfolder : disk.node? location = some .folder) (hname : Path.IsName name) :
    disk.walk start (names ++ [name]) = .ok (name :: location) := by
  induction names generalizing start with
  | nil =>
    obtain rfl := Except.ok.inj hwalk
    rw [List.nil_append, walk_cons, if_neg hname.noUp]
    exact ⟨hfolder, hname.short, rfl⟩
  | cons first rest ih =>
    rw [walk_cons] at hwalk
    rw [List.cons_append, walk_cons]
    obtain ⟨hstart, hrest⟩ := hwalk
    refine ⟨hstart, ?_⟩
    split at hrest
    · next hup =>
      rw [if_pos hup]
      exact ih hrest
    · next hup =>
      rw [if_neg hup]
      exact ⟨hrest.1, ih hrest.2⟩

/-- A path that leads somewhere is one. -/
theorem elem_of_locate (h : disk.locate path = .ok location) : path.toText.elem '\x00' = false := by
  rw [locate] at h
  split at h
  · cases h
  · next hnull => exact Bool.eq_false_iff.2 hnull

theorem walk_of_locate (h : disk.locate path = .ok location) :
    disk.walk (if path.start = .here then disk.here else []) path.names = .ok location := by
  rw [locate] at h
  split at h
  · cases h
  · split at h
    · cases h
    · exact h

/-- A name leads to what has it in the folder, if the path does not get too long. -/
theorem locate_child (hname : Path.IsName name) (hlocate : disk.locate path = .ok location)
    (hfolder : disk.node? location = some .folder)
    (hshort : (Utf8.encode path.toText).length + 1 + (Utf8.encode name).length ≤ maxPath) :
    disk.locate (path.child name) = .ok (name :: location) := by
  have hlength := Path.length_encode_child path hname
  rw [locate, if_neg (Bool.eq_false_iff.1 (Path.elem_child hname (elem_of_locate hlocate))),
    if_neg (by omega), Path.child_eq hname]
  exact walk_concat (walk_of_locate hlocate) hfolder hname

end Disk

end ScreenScript
