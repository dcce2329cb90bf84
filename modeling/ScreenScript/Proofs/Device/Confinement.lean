import ScreenScript.Proofs.Config.Workspace
import ScreenScript.Proofs.Disk.Footprint
import ScreenScript.Proofs.Run.Rounds
import ScreenScript.Script.Compilation

/-!
# Where screenshots are kept

The file for a screenshot is named after its step, in the folder for images, and nothing else of the name is
looked at. So a name with `..` or with a slash in front may lead out of that folder. A screenshot changes
nothing but along its path, whatever becomes of it, and where the name leads never above the folder for
images, it changes nothing outside.

* `Bridge.follows_screenshot` — a screenshot changes nothing but along its path
* `Bridge.Inside` — the name of a step that never leads out of the folder for images
* `Bridge.screenshot_stays_inside` — then no screenshot does
-/

namespace ScreenScript

/-! ## Texts -/

namespace Text

variable {c separator : Char} {t : Text}

theorem fields_of_not_mem (h : separator ∉ t) : fields separator t = [t] := by
  induction t with
  | nil => rfl
  | cons c rest ih =>
    have hc : c ≠ separator := fun heq => h (heq ▸ List.mem_cons_self)
    rw [fields, if_neg hc, ih fun hmem => h (List.mem_cons_of_mem c hmem)]

/-- A character that does not separate is in one of the pieces. -/
theorem exists_mem_fields (h : c ∈ t) (hc : c ≠ separator) : ∃ piece ∈ fields separator t, c ∈ piece := by
  induction t with
  | nil => cases h
  | cons first rest ih =>
    rw [fields]
    split
    · next hfirst =>
      rcases List.mem_cons.1 h with rfl | hrest
      · exact absurd hfirst hc
      · obtain ⟨piece, hpiece, hmem⟩ := ih hrest
        exact ⟨piece, List.mem_cons_of_mem _ hpiece, hmem⟩
    · obtain ⟨head, pieces, hpieces⟩ := List.exists_cons_of_ne_nil (fields_ne_nil separator rest)
      rw [hpieces] at ih ⊢
      rcases List.mem_cons.1 h with rfl | hrest
      · exact ⟨_, List.mem_cons_self, List.mem_cons_self⟩
      · obtain ⟨piece, hpiece, hmem⟩ := ih hrest
        rcases List.mem_cons.1 hpiece with rfl | hpiece
        · exact ⟨_, List.mem_cons_self, List.mem_cons_of_mem _ hmem⟩
        · exact ⟨piece, List.mem_cons_of_mem _ hpiece, hmem⟩

theorem ofNat_ne_slash {code : Nat} (h : 0x2f < code) : Char.ofNat code ≠ '/' := by
  intro heq
  have hcode := congrArg Char.toNat heq
  by_cases hvalid : code.isValidChar
  · rw [Char.ofNat, dif_pos hvalid] at hcode
    have hslash : code = 0x2f := hcode
    omega
  · rw [Char.ofNat, dif_neg hvalid] at hcode
    exact absurd hcode (by decide)

/-- No other character has a slash for its lower case. -/
theorem slash_of_mem_lowerChar (h : '/' ∈ lowerChar c) : c = '/' := by
  -- the partners of upper-case characters come behind the slash
  have htargets : ∀ run ∈ caseRuns, 0x2f < run.target := by decide +kernel
  rw [lowerChar] at h
  split at h
  · exact absurd h (by decide)
  · split at h
    · next run hrun =>
      have htarget := htargets run (List.mem_of_find?_eq_some hrun)
      exact absurd (List.mem_singleton.1 h).symm (ofNat_ne_slash (by omega))
    · exact (List.mem_singleton.1 h).symm

theorem slash_of_mem_lowerAfter {before : Text} (h : '/' ∈ lowerAfter before t) : '/' ∈ t := by
  induction t generalizing before with
  | nil => cases h
  | cons c rest ih =>
    rw [lowerAfter_cons] at h
    rcases List.mem_append.1 h with hfirst | hrest
    · split at hfirst
      · split at hfirst <;> exact absurd hfirst (by decide)
      · exact slash_of_mem_lowerChar hfirst ▸ List.mem_cons_self
    · exact List.mem_cons_of_mem c (ih hrest)

end Text

/-! ## Names -/

namespace Bridge

/-- The name of the file for a screenshot of a step. -/
def fileName (step : Step) : Text := (step.name.replaceChar ' ' '-').lower ++ ".png".toList

theorem screenshotPath_eq (bridge : Bridge) (step : Step) :
    bridge.screenshotPath step = (bridge.folder.child Workspace.imagesFolder).child (fileName step) := rfl

/-- The name of the file leads from the folder for images to a place in it, and never above the folder. -/
structure Inside (step : Step) : Prop where
  relative : (Path.ofText (fileName step)).start = .here
  below : Path.StaysBelow 0 (Path.ofText (fileName step)).names

variable {bridge : Bridge} {step : Step}

/-- A file has a name. -/
theorem names_ofText_fileName (step : Step) : (Path.ofText (fileName step)).names ≠ [] := by
  have hmem : 'p' ∈ fileName step := List.mem_append_right _ (by decide)
  obtain ⟨piece, hpiece, hp⟩ : ∃ piece ∈ Text.fields '/' (fileName step), 'p' ∈ piece :=
    Text.exists_mem_fields hmem (by decide)
  have hname : piece ∈ (Path.ofText (fileName step)).names := by
    refine List.mem_filter.2 ⟨hpiece, ?_⟩
    have hempty : piece ≠ [] := List.ne_nil_of_mem hp
    have hdot : piece ≠ ['.'] := by
      rintro rfl
      exact absurd hp (by decide)
    simp [hempty, hdot]
  exact List.ne_nil_of_mem hname

/-- A name without a slash stays inside. -/
theorem inside_of_no_slash (h : '/' ∉ step.name) : Inside step := by
  have hslash : '/' ∉ fileName step := by
    intro hmem
    rcases List.mem_append.1 hmem with hname | hsuffix
    · obtain ⟨c, hc, heq⟩ := List.mem_map.1 (Text.slash_of_mem_lowerAfter hname)
      split at heq
      · cases heq
      · exact h (heq ▸ hc)
    · exact absurd hsuffix (by decide)
  have hfields := Text.fields_of_not_mem hslash
  refine ⟨?_, Path.staysBelow_of_not_mem (fun hmem => ?_) 0⟩
  · rw [Path.ofText]
    dsimp only
    unfold Path.startOf
    split
    · next heq => exact absurd (heq ▸ List.mem_cons_self) hslash
    · next heq => exact absurd (heq ▸ List.mem_cons_self) hslash
    · next heq => exact absurd (heq ▸ List.mem_cons_self) hslash
    · rfl
  · have hup : "..".toList ∈ Text.fields '/' (fileName step) := (List.mem_filter.1 hmem).1
    rw [hfields, List.mem_singleton] at hup
    have hp : 'p' ∈ fileName step := List.mem_append_right _ (by decide)
    rw [← hup] at hp
    exact absurd hp (by decide)

/-! ## Changes -/

theorem follows_save (path : Path) (saving : Saving) : (Picture.save path saving).Follows id path := by
  refine Routine.follows_bind (Disk.follows_writeContent path _) fun _ => ?_
  split
  · exact Routine.silent_pure.follows
  · exact Routine.silent_fail.follows

theorem follows_scaleFile (imaging : Imaging) (path : Path) (side : Scalar) :
    (Picture.scaleFile imaging path path side).Follows id path := by
  refine Routine.follows_bind (Disk.silent_readContent path).follows fun content => ?_
  refine Routine.follows_bind Routine.silent_ofExcept.follows fun size => ?_
  refine Routine.follows_bind Routine.silent_ofExcept.follows fun sides => ?_
  refine Routine.follows_bind Routine.silent_ofExcept.follows fun saving => ?_
  refine Routine.follows_bind (follows_save path saving) fun _ => ?_
  exact Routine.follows_bind Routine.silent_say.follows fun _ => Routine.silent_pure.follows

theorem follows_coverFile (imaging : Imaging) (path : Path) (share : Scalar) :
    (Picture.coverFile imaging path share).Follows id path := by
  refine Routine.follows_bind (Disk.silent_readContent path).follows fun content => ?_
  refine Routine.follows_bind Routine.silent_ofExcept.follows fun height => ?_
  refine Routine.follows_bind Routine.silent_ofExcept.follows fun rows => ?_
  exact Routine.follows_bind Routine.silent_ofExcept.follows fun saving => follows_save path saving

theorem follows_prepare (imaging : Imaging) (intervals : Intervals) (path : Path) :
    (prepare imaging intervals path).Follows id path := by
  refine Routine.follows_bind (follows_scaleFile imaging path _) fun factor => ?_
  split
  · exact Routine.follows_bind (follows_coverFile imaging path _) fun _ => Routine.silent_pure.follows
  · exact Routine.silent_pure.follows

/-- A screenshot changes nothing but along its path, whatever becomes of it. -/
theorem follows_screenshot (bridge : Bridge) (step : Step) :
    (bridge.screenshot step).Follows Site.disk (bridge.screenshotPath step) := by
  refine Routine.follows_bind (Routine.follows_onDisk (Disk.follows_ensureFolder _)) fun _ => ?_
  refine Routine.follows_bind Routine.silent_say.follows fun _ => ?_
  refine Routine.follows_bind
    (Routine.follows_attempt (Routine.follows_onDevice _) _) fun reply => ?_
  rcases reply with fault | ⟨code, data⟩
  · exact Routine.follows_bind Routine.silent_say.follows fun _ => Routine.silent_pure.follows
  dsimp only
  split
  · exact Routine.follows_bind Routine.silent_say.follows fun _ => Routine.silent_pure.follows
  refine Routine.follows_bind (Routine.follows_onDisk (Disk.follows_writeContent _ data)) fun _ => ?_
  refine Routine.follows_bind
    (Routine.follows_attempt (Routine.follows_onDisk (follows_prepare _ _ _)) _) fun factor => ?_
  cases factor <;>
    exact Routine.follows_bind Routine.silent_say.follows fun _ => Routine.silent_pure.follows

/-- The path of a screenshot whose name stays inside goes on behind the name of the folder for images. -/
theorem Inside.path_eq (h : Inside step) (bridge : Bridge) :
    bridge.screenshotPath step = { bridge.folder with
      names := bridge.folder.names ++ Workspace.imagesFolder :: (Path.ofText (fileName step)).names } := by
  have hname : Path.IsName Workspace.imagesFolder := Workspace.Slot.isName .images
  rw [screenshotPath_eq, Path.child_eq hname, Path.child, Path.join, if_pos h.relative]
  dsimp only
  rw [List.append_assoc]
  rfl

/-- **Screenshots stay inside.** Whatever becomes of a screenshot, nothing has changed but along its path. If
the name of the step never leads above the folder for images, as no name without a slash does, then nothing
has changed outside this folder of the workspace, and a screenshot that is taken is a file below it. -/
theorem screenshot_stays_inside (bridge : Bridge) (step : Step) (site : Site History) :
    site.disk.ChangesAlong (bridge.screenshotPath step) (bridge.screenshot step site).state.disk ∧
    (∀ root, Inside step → site.disk.locate bridge.folder = .ok root →
      site.disk.node? root = some .folder →
      (∀ location, (bridge.screenshot step site).state.disk.node? location ≠ site.disk.node? location →
        Workspace.imagesFolder :: root <:+ location) ∧
      ∀ screenshot, (bridge.screenshot step site).result = .ok (some screenshot) →
        ∃ location, (bridge.screenshot step site).state.disk.locate screenshot.path = .ok location ∧
          Workspace.imagesFolder :: root <:+ location ∧ location ≠ Workspace.imagesFolder :: root) ∧
    ('/' ∉ step.name → Inside step) := by
  have hfollows := bridge.follows_screenshot step site
  refine ⟨hfollows, ?_, inside_of_no_slash⟩
  intro root hinside hroot hfolder
  have hname : Workspace.imagesFolder ≠ "..".toList := by decide
  rw [hinside.path_eq] at hfollows
  refine ⟨fun location => hfollows.suffix hroot hfolder hname hinside.below, ?_⟩
  intro screenshot hshot
  obtain ⟨kept, hcapture, -⟩ := capture_of_yields (Routine.yields_of_result hshot)
  have hread := hcapture.read
  rw [hcapture.path, hinside.path_eq] at hread ⊢
  exact Disk.below_of_read (hfollows.keeps.locate hroot) hname hinside.below
    (names_ofText_fileName step) hread

end Bridge

/-! ## Two rehearsals -/

namespace Rehearsal

/-- The folder of the workspace is there, and nothing in it. -/
def housed : Site Bridge.History := ⟨{ nodes := [(["w".toList], .folder)] }, []⟩

/-- A step whose name goes up again, but not out of the folder for images. -/
def detour : Step := ⟨"a/../Open Menu".toList, [], [], false⟩

/-- A script with a step whose name leads out of the folder for images. -/
def leaving : List Text := ["step ../x".toList, "end".toList]

/-- The step of this script. -/
def leavingTask : StepTask := { step := ⟨"../x".toList, [], [], true⟩ }

end Rehearsal

namespace Bridge

/-- The screenshot of such a step is in the folder for images. -/
theorem screenshot_stays_inside_of_detour :
    Inside Rehearsal.detour ∧
      Rehearsal.housed.disk.locate Rehearsal.growing.folder = .ok ["w".toList] ∧
      Rehearsal.housed.disk.node? ["w".toList] = some .folder ∧
      (Rehearsal.growing.screenshot Rehearsal.detour Rehearsal.housed).result =
        .ok (some ⟨Rehearsal.growing.screenshotPath Rehearsal.detour, .real .half⟩) ∧
      ∃ location, (Rehearsal.growing.screenshot Rehearsal.detour Rehearsal.housed).state.disk.locate
          (Rehearsal.growing.screenshotPath Rehearsal.detour) = .ok location ∧
        [Workspace.imagesFolder, "w".toList] <:+ location ∧
        location ≠ [Workspace.imagesFolder, "w".toList] := by
  have hpath : Path.ofText (fileName Rehearsal.detour) =
      { names := ["a".toList, "..".toList, "open-menu.png".toList] } := by decide +kernel
  have hinside : Inside Rehearsal.detour := by
    refine ⟨by rw [hpath], ?_⟩
    rw [hpath]
    exact ⟨0, rfl, trivial⟩
  have hroot : Rehearsal.housed.disk.locate Rehearsal.growing.folder = .ok ["w".toList] := by
    decide +kernel
  have hfolder : Rehearsal.housed.disk.node? ["w".toList] = some .folder := by decide +kernel
  have hshot : (Rehearsal.growing.screenshot Rehearsal.detour Rehearsal.housed).result =
      .ok (some ⟨Rehearsal.growing.screenshotPath Rehearsal.detour, .real .half⟩) :=
    Routine.result_of_toOption (by decide +kernel)
  exact ⟨hinside, hroot, hfolder, hshot,
    ((screenshot_stays_inside _ _ _).2.1 _ hinside hroot hfolder).2 _ hshot⟩

/-- The screenshot of a step in a script may be a file beside the folder for images. -/
theorem screenshot_may_leave :
    ¬ ∀ (lines : List Text) (tasks : List Task) (task : StepTask) (bridge : Bridge)
      (site : Site History) (root : Location),
      (Compilation.ofLines (fun _ => 0) 0 10 lines).result = .ok tasks → .screen task ∈ tasks →
      site.disk.locate bridge.folder = .ok root → site.disk.node? root = some .folder →
      ∀ location,
        (bridge.screenshot task.step site).state.disk.node? location ≠ site.disk.node? location →
        Workspace.imagesFolder :: root <:+ location := by
  intro h
  have hsuffix := h Rehearsal.leaving [.screen Rehearsal.leavingTask] Rehearsal.leavingTask
    Rehearsal.growing Rehearsal.housed ["w".toList] (Eq.refl _) List.mem_cons_self
    (by decide +kernel) (by decide +kernel) ["x.png".toList, "w".toList] (by decide +kernel)
  exact absurd hsuffix (by decide +kernel)

end Bridge

end ScreenScript
