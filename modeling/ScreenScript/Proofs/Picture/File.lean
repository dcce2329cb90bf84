import ScreenScript.Picture.File
import ScreenScript.Proofs.Disk.Access

/-!
# What becomes of the picture of a file

Scaling a file and covering it put another picture into it, and sending it takes what is in it then. Which
picture that is, is up to the library; the numbers that it is given are not.

* `Picture.Scaling`, `Picture.Covering` — what scaling and covering make of what a file holds
* `Picture.scaleFile_yields`, `Picture.coverFile_yields` — the same for files
* `Picture.encodeFile_yields` — what is sent
-/

namespace ScreenScript.Picture

/-! ## Pictures -/

variable {imaging : Imaging} {path : Path}

/-- The library scales the picture of a file by a factor, so that its shorter side has a given length. -/
structure Scaling (imaging : Imaging) (path : Path) (side : Scalar) (taken : Octets) (factor : Binary64)
    (scaled : Octets) : Prop where
  resize : ∃ width height scaledWidth scaledHeight, imaging.size path taken = .ok (width, height) ∧
    scaledSides side width height = .ok (factor, scaledWidth, scaledHeight) ∧
    imaging.resize path taken scaledWidth scaledHeight = .ok ⟨scaled, none⟩

/-- The library covers a share of the height of the picture of a file, from the top. -/
structure Covering (imaging : Imaging) (path : Path) (share : Scalar) (shown covered : Octets) : Prop where
  cover : ∃ height rows, imaging.height path shown = .ok height ∧ rowsOf share height = .ok rows ∧
    imaging.cover path shown rows = .ok ⟨covered, none⟩

/-! ## Files -/

variable {disk disk' : Disk} {source target : Path} {events : List Event}

/-- What stands behind something that is computed without the files. -/
theorem yields_ofExcept_bind {α β ε : Type} {fault : ε → Fault} {x : Except ε β} {f : β → Routine Disk α}
    {a : α} (h : (Routine.ofExcept fault x >>= f).Yields disk a disk' events) :
    ∃ value, x = .ok value ∧ (f value).Yields disk a disk' events := by
  rw [Routine.yields_bind] at h
  obtain ⟨value, disk₁, earlier, later, hfirst, h, rfl⟩ := h
  obtain ⟨hvalue, rfl, rfl⟩ := Routine.yields_ofExcept.1 hfirst
  exact ⟨value, hvalue, h⟩

/-- What stands behind the content of a file. -/
theorem yields_readContent_bind {α : Type} {f : Content → Routine Disk α} {a : α}
    (h : (Disk.readContent path >>= f).Yields disk a disk' events) :
    ∃ content, disk.read path = .ok content ∧ (f content).Yields disk a disk' events := by
  rw [Routine.yields_bind] at h
  obtain ⟨content, disk₁, earlier, later, hread, h, rfl⟩ := h
  obtain ⟨hcontent, rfl, rfl⟩ := Disk.yields_readContent.1 hread
  exact ⟨content, hcontent, h⟩

/-- A picture that is written as a whole. -/
theorem yields_save {saving : Saving} {u : Unit} (h : (save path saving).Yields disk u disk' events) :
    saving = ⟨saving.written, none⟩ ∧ disk.write path (.octets saving.written) = .ok disk' ∧ events = [] := by
  rw [save, Routine.yields_bind] at h
  obtain ⟨u, disk₁, earlier, later, hwriting, h, rfl⟩ := h
  obtain ⟨hwrite, rfl⟩ := Disk.yields_writeContent.1 hwriting
  obtain ⟨written, flaw⟩ := saving
  cases flaw with
  | none =>
    obtain ⟨-, rfl, rfl⟩ := Routine.yields_pure.1 h
    exact ⟨rfl, hwrite, rfl⟩
  | some flaw => exact absurd h Routine.yields_fail

/-- A file that is scaled holds the scaled picture. -/
theorem scaleFile_yields {side : Scalar} {factor : Binary64}
    (h : (scaleFile imaging source target side).Yields disk factor disk' events) :
    ∃ taken scaled, disk.read source = .ok (.octets taken) ∧ Scaling imaging source side taken factor scaled ∧
      disk'.read target = .ok (.octets scaled) ∧ events = [] := by
  obtain ⟨⟨taken⟩, htaken, h⟩ := yields_readContent_bind h
  obtain ⟨⟨width, height⟩, hsize, h⟩ := yields_ofExcept_bind h
  obtain ⟨⟨factor', scaledWidth, scaledHeight⟩, hsides, h⟩ := yields_ofExcept_bind h
  dsimp only at h
  obtain ⟨saving, hresize, h⟩ := yields_ofExcept_bind h
  rw [Routine.yields_bind] at h
  obtain ⟨u, disk₁, earlier, later, hsave, hrest, rfl⟩ := h
  obtain ⟨hwhole, hwrite, rfl⟩ := yields_save hsave
  obtain ⟨u', hpure⟩ := Routine.silent_say.of_bind hrest
  obtain ⟨rfl, rfl, rfl⟩ := Routine.yields_pure.1 hpure
  rw [hwhole] at hresize
  exact ⟨taken, saving.written, htaken, ⟨width, height, scaledWidth, scaledHeight, hsize, hsides, hresize⟩,
    Disk.read_of_write hwrite, rfl⟩

/-- A file that is covered holds the covered picture. -/
theorem coverFile_yields {share : Scalar} {u : Unit}
    (h : (coverFile imaging path share).Yields disk u disk' events) :
    ∃ shown covered, disk.read path = .ok (.octets shown) ∧ Covering imaging path share shown covered ∧
      disk'.read path = .ok (.octets covered) ∧ events = [] := by
  obtain ⟨⟨shown⟩, hshown, h⟩ := yields_readContent_bind h
  obtain ⟨height, hheight, h⟩ := yields_ofExcept_bind h
  obtain ⟨rows, hrows, h⟩ := yields_ofExcept_bind h
  obtain ⟨saving, hcover, h⟩ := yields_ofExcept_bind h
  obtain ⟨hwhole, hwrite, rfl⟩ := yields_save h
  rw [hwhole] at hcover
  exact ⟨shown, saving.written, hshown, ⟨height, rows, hheight, hrows, hcover⟩, Disk.read_of_write hwrite, rfl⟩

theorem quiet_save (path : Path) (saving : Saving) : (save path saving).Quiet := by
  refine Routine.emits_bind (Disk.quiet_writeContent path _) fun _ => ?_
  split
  · exact Routine.silent_pure.emits
  · exact Routine.silent_fail.emits

theorem quiet_scaleFile (imaging : Imaging) (source target : Path) (side : Scalar) :
    (scaleFile imaging source target side).Quiet := by
  refine Routine.emits_bind (Disk.silent_readContent source).emits fun content => ?_
  refine Routine.emits_bind Routine.silent_ofExcept.emits fun size => ?_
  refine Routine.emits_bind Routine.silent_ofExcept.emits fun sides => ?_
  refine Routine.emits_bind Routine.silent_ofExcept.emits fun saving => ?_
  refine Routine.emits_bind (quiet_save target saving) fun _ => ?_
  exact Routine.emits_bind Routine.silent_say.emits fun _ => Routine.silent_pure.emits

theorem quiet_coverFile (imaging : Imaging) (path : Path) (share : Scalar) :
    (coverFile imaging path share).Quiet := by
  refine Routine.emits_bind (Disk.silent_readContent path).emits fun content => ?_
  refine Routine.emits_bind Routine.silent_ofExcept.emits fun height => ?_
  refine Routine.emits_bind Routine.silent_ofExcept.emits fun rows => ?_
  exact Routine.emits_bind Routine.silent_ofExcept.emits fun saving => quiet_save path saving

/-- To encode a file is only to read it. -/
theorem silent_encodeFile (path : Path) : (encodeFile path).Silent := by
  refine Routine.silent_bind (Disk.silent_checkExists path) fun there => ?_
  split
  · refine Routine.silent_bind ((Disk.silent_readContent path).attempt _) fun content => ?_
    cases content with
    | ok content => exact Routine.silent_pure
    | error fault => exact Routine.silent_bind Routine.silent_say fun _ => Routine.silent_pure
  · exact Routine.silent_bind Routine.silent_say fun _ => Routine.silent_pure

/-- What is sent is what the file holds. -/
theorem encodeFile_yields {image : EncodedImage}
    (h : (encodeFile path).Yields disk (some image) disk' events) :
    ∃ content, disk.read path = .ok content ∧ image = .file content ∧ disk' = disk ∧ events = [] := by
  rw [encodeFile, Routine.yields_bind] at h
  obtain ⟨there, disk₁, earlier, later, hthere, h, rfl⟩ := h
  obtain ⟨rfl, rfl⟩ : disk₁ = disk ∧ earlier = [] := by
    rw [Disk.checkExists, Routine.yields_get_bind] at hthere
    exact (Routine.yields_ofExcept.1 hthere).2
  cases there with
  | false =>
    rw [if_neg Bool.false_ne_true] at h
    obtain ⟨u, hpure⟩ := Routine.silent_say.of_bind h
    cases (Routine.yields_pure.1 hpure).1
  | true =>
    rw [if_pos rfl, Routine.yields_bind] at h
    obtain ⟨content?, disk₂, reading, later, hreading, h, rfl⟩ := h
    rcases Routine.yields_attempt.1 hreading with ⟨content, rfl, hread⟩ | ⟨fault, b, rfl, -⟩
    · obtain ⟨hcontent, rfl, rfl⟩ := Disk.yields_readContent.1 hread
      obtain ⟨himage, rfl, rfl⟩ := Routine.yields_pure.1 h
      exact ⟨content, hcontent, Option.some.inj himage, rfl, rfl⟩
    · obtain ⟨u, hpure⟩ := Routine.silent_say.of_bind h
      cases (Routine.yields_pure.1 hpure).1

end ScreenScript.Picture
