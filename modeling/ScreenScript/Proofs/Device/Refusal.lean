import ScreenScript.Proofs.Device.Confinement
import ScreenScript.Proofs.Picture.Limits

/-!
# Screenshots that break off

Where no picture is taken, or where the library declares that what is taken is none, there is no screenshot, and
this is reported. But the folder for it has to be made, the command handed to the system and the file written, the
lengths of the scaled picture and the rows that are covered have to be computed, and the library may fail in ways
that it does not declare. Where one of these happens, taking a screenshot breaks off instead. With valid intervals
and sides as they are documented, the numbers are no reason.

* `Bridge.Unpreparable` — why a picture cannot be scaled or covered as the intervals say
* `Bridge.Unhandled` — why a screenshot breaks off
* `Bridge.Reported` — why there is no screenshot although it does not
* `Bridge.screenshot_breaks_iff_unhandled` — there are no other reasons
-/

namespace ScreenScript

/-! ## Files -/

theorem Disk.result_ensureFolder_of_error {disk disk' : Disk} {path : Path} {error : FileError}
    (h : disk.makeFolders path = (.error error, disk')) :
    (ensureFolder path disk).result = .error (.file error) := by
  rw [ensureFolder, Routine.bind_of_ok (a := disk) rfl]
  simp only [Outcome.behind]
  rw [h]
  rfl

namespace Bridge

variable {bridge : Bridge} {step : Step} {site : Site History} {disk disk₁ disk₂ : Disk} {path : Path}
  {history : History} {imaging : Imaging} {intervals : Intervals} {taken : Octets} {data : Content}
  {fault : Fault} {error : FileError}

/-! ## Preparing a picture -/

/-- Why the picture of a screenshot cannot be scaled or covered as the intervals say. -/
inductive Unpreparable (imaging : Imaging) (intervals : Intervals) (path : Path) (taken : Octets) : Fault → Prop
  /-- it cannot be scaled -/
  | scaling {fault : Fault} : Picture.Unscalable imaging path (.int intervals.normalizedWidth) taken fault →
    Unpreparable imaging intervals path taken fault
  /-- the scaled picture cannot be covered -/
  | covering {factor : Binary64} {scaled : Octets} {fault : Fault} : intervals.coversStatusBar = true →
    Picture.Scaling imaging path (.int intervals.normalizedWidth) taken factor scaled →
    Picture.Uncoverable imaging path (.real intervals.statusBarShare) scaled fault →
    Unpreparable imaging intervals path taken fault

/-- With valid intervals and sides as they are documented, it is the library that fails. -/
theorem Unpreparable.exists_flaw (h : Unpreparable imaging intervals path taken fault) (hsound : intervals.Sound)
    (hwidth : intervals.normalizedWidth < 2 ^ 64) (hsized : imaging.Sized) :
    ∃ flaw, fault = .imaging flaw := by
  rcases h with hscaling | ⟨-, -, hcovering⟩
  · cases hscaling with
    | sides hsize hsides =>
      obtain ⟨⟨hpos, hlt⟩, hpos', hlt'⟩ := hsized.size _ _ _ _ hsize
      obtain ⟨sides, hcomputed⟩ :=
        Picture.exists_scaledSides hsound.width_pos hwidth hpos hlt hpos' hlt'
      cases hcomputed.symm.trans hsides
    | _ => exact ⟨_, rfl⟩
  · cases hcovering with
    | rows hheight hrows =>
      obtain ⟨rows, hcomputed⟩ := hsound.share.exists_rowsOf (hsized.height _ _ _ hheight)
      cases hcomputed.symm.trans hrows
    | _ => exact ⟨_, rfl⟩

theorem result_prepare_of_unpreparable (hread : disk.read path = .ok (.octets taken))
    (h : Unpreparable imaging intervals path taken fault) :
    (prepare imaging intervals path disk).result = .error fault := by
  rw [prepare]
  cases h with
  | scaling hscaling => rw [Routine.bind_of_error (Picture.result_scaleFile_of_unscalable hread hscaling)]
  | @covering factor scaled _ hcovers hscaling hcovering =>
    obtain ⟨disk₁, hwrite⟩ := Disk.exists_write_of_read hread (.octets scaled)
    rw [(Picture.yields_scaleFile_of_scaling hread hscaling hwrite).result_bind, if_pos hcovers,
      Routine.bind_of_error (Picture.result_coverFile_of_uncoverable (Disk.read_of_write hwrite) hcovering)]

theorem exists_result_prepare (hread : disk.read path = .ok (.octets taken))
    (h : ∀ fault, ¬Unpreparable imaging intervals path taken fault) :
    ∃ factor, (prepare imaging intervals path disk).result = .ok factor := by
  rcases Picture.unscalable_or_scaling imaging path (.int intervals.normalizedWidth) taken with
    ⟨fault, hscaling⟩ | ⟨factor, scaled, hscaling⟩
  · exact absurd (.scaling hscaling) (h fault)
  · obtain ⟨disk₁, hwrite⟩ := Disk.exists_write_of_read hread (.octets scaled)
    refine ⟨factor, ?_⟩
    rw [prepare, (Picture.yields_scaleFile_of_scaling hread hscaling hwrite).result_bind]
    cases hcovers : intervals.coversStatusBar with
    | false => rfl
    | true =>
      rcases Picture.uncoverable_or_covering imaging path (.real intervals.statusBarShare) scaled with
        ⟨fault, hcovering⟩ | ⟨covered, hcovering⟩
      · exact absurd (.covering hcovers hscaling hcovering) (h fault)
      · have hcover := Picture.result_coverFile_of_covering (Disk.read_of_write hwrite) hcovering
        rw [if_pos rfl, Routine.bind_of_ok hcover]
        rfl

/-! ## Taking a picture -/

/-- A picture is taken: the command for it is run, ends well and has written something. -/
structure Taken (bridge : Bridge) (history : History) (data : Content) : Prop where
  runnable : bridge.isRunnable capturing = true
  reply : bridge.replies history (bridge.withDevice capturing) = .ended 0 data
  written : data.isEmpty = false

/-- Keeps what was taken in the file for it, and prepares it. -/
def keep (bridge : Bridge) (path : Path) (data : Content) : Routine (Site History) (Option Screenshot) := do
  Site.onDisk (Disk.writeContent path data)
  match ← (Site.onDisk (prepare bridge.imaging bridge.intervals path)).attempt
      fun fault => if fault.isStorage then some fault else none with
  | .error fault => do
    Routine.say .error ("截图处理失败: ".toList ++ fault.message)
    return none
  | .ok factor => do
    Routine.say .debug ("截图已保存: ".toList ++ path.toText)
    return some ⟨path, .real factor⟩

theorem result_keep_of_unwritten (h : disk.write path data = .error error) :
    (bridge.keep path data ⟨disk, history⟩).result = .error (.file error) := by
  have hwrite : (Site.onDisk (Disk.writeContent path data) ⟨disk, history⟩).result = .error (.file error) :=
    (Disk.writeContent_of_error h).1
  rw [keep, Routine.bind_of_error hwrite]

theorem result_keep_of_written (h : disk.write path data = .ok disk₂) :
    (bridge.keep path data ⟨disk, history⟩).result =
      match (prepare bridge.imaging bridge.intervals path disk₂).result with
      | .ok factor => .ok (some ⟨path, .real factor⟩)
      | .error fault => if fault.isStorage then .ok none else .error fault := by
  have hwrite : (Site.onDisk (Disk.writeContent path data)).Yields ⟨disk, history⟩ () ⟨disk₂, history⟩ [] :=
    Routine.yields_within.2 ⟨disk₂, Disk.yields_writeContent.2 ⟨h, rfl⟩, rfl⟩
  rw [keep, hwrite.result_bind]
  have hprepare : (Site.onDisk (prepare bridge.imaging bridge.intervals path) ⟨disk₂, history⟩).result =
    (prepare bridge.imaging bridge.intervals path disk₂).result := rfl
  cases hresult : (prepare bridge.imaging bridge.intervals path disk₂).result with
  | ok factor =>
    rw [hresult] at hprepare
    rw [Routine.bind_of_ok (Routine.result_attempt_of_ok hprepare)]
    rfl
  | error fault =>
    rw [hresult] at hprepare
    dsimp only
    split
    next hstorage =>
      rw [Routine.bind_of_ok (Routine.result_attempt_of_caught hprepare (if_pos hstorage))]
      rfl
    next hstorage =>
      rw [Routine.bind_of_error (Routine.result_attempt_of_uncaught hprepare (if_neg hstorage))]

/-- The bridge is asked for a picture of the screen. -/
def asking (bridge : Bridge) : Routine (Site History) (Except BridgeFault (Int × Content)) :=
  (Site.onDevice (bridge.execute capturing)).attempt ownFault

theorem result_screenshot (hmade : site.disk.makeFolders (bridge.screenshotPath step).parent = (.ok (), disk₁)) :
    (bridge.screenshot step site).result = ((do
      match ← bridge.asking with
      | .error fault => do
        Routine.say .error ("截图失败: ".toList ++ fault.message)
        return none
      | .ok (code, data) => do
        if code ≠ 0 || data.isEmpty then
          Routine.say .error ("截图失败: returncode=".toList ++ Text.ofInt code ++ ", size=".toList ++
            Text.ofNat data.toOctets.length)
          return none
        else
          bridge.keep (bridge.screenshotPath step) data : Routine (Site History) (Option Screenshot))
            ⟨disk₁, site.device⟩).result := by
  have hfolder : (Site.onDisk (Disk.ensureFolder (bridge.screenshotPath step).parent)).Yields site ()
      ⟨disk₁, site.device⟩ [] :=
    Routine.yields_within.2 ⟨disk₁, Disk.yields_ensureFolder.2 ⟨hmade, rfl⟩, rfl⟩
  have hsay : (Routine.say .debug "截图中...".toList).Yields (⟨disk₁, site.device⟩ : Site History) ()
      ⟨disk₁, site.device⟩ [] := Routine.yields_say.2 ⟨rfl, rfl⟩
  rw [screenshot]
  dsimp only
  rw [hfolder.result_bind, hsay.result_bind]
  rfl

theorem yields_asking {code : Int} (hrunnable : bridge.isRunnable capturing = true)
    (h : bridge.replies history (bridge.withDevice capturing) = .ended code data) :
    bridge.asking.Yields ⟨disk, history⟩ (.ok (code, data)) ⟨disk, bridge.withDevice capturing :: history⟩
      [.ran (bridge.fullCommand capturing)] := by
  have hexecute := execute_apply hrunnable history
  rw [h] at hexecute
  exact Routine.yields_attempt.2 (.inl ⟨_, rfl, Routine.yields_within.2
    ⟨_, (Routine.yields_of_apply hexecute).2 ⟨rfl, rfl, rfl⟩, rfl⟩⟩)

theorem result_asking_of_fault {fault : BridgeFault}
    (h : (bridge.execute capturing history).result = .error (.bridge fault)) :
    (bridge.asking ⟨disk, history⟩).result = .ok (.error fault) :=
  Routine.result_attempt_of_caught (m := Site.onDevice (bridge.execute capturing)) h rfl

/-- What was taken is kept. -/
theorem result_screenshot_of_taken
    (hmade : site.disk.makeFolders (bridge.screenshotPath step).parent = (.ok (), disk₁))
    (htaken : bridge.Taken site.device data) :
    ∃ history, (bridge.screenshot step site).result =
      (bridge.keep (bridge.screenshotPath step) data ⟨disk₁, history⟩).result := by
  obtain ⟨hrunnable, hreply, hwritten⟩ := htaken
  refine ⟨bridge.withDevice capturing :: site.device, ?_⟩
  rw [result_screenshot hmade, (yields_asking hrunnable hreply).result_bind]
  dsimp only
  rw [if_neg (by simp [hwritten])]

/-- Where nothing is taken, there is no screenshot. -/
theorem result_screenshot_of_not_taken
    (hmade : site.disk.makeFolders (bridge.screenshotPath step).parent = (.ok (), disk₁))
    (hrunnable : bridge.isRunnable capturing = true) (h : ∀ data, ¬bridge.Taken site.device data) :
    (bridge.screenshot step site).result = .ok none := by
  have hexecute := execute_apply hrunnable site.device
  rw [result_screenshot hmade]
  cases hreply : bridge.replies site.device (bridge.withDevice capturing) with
  | missing | silent =>
    rw [hreply] at hexecute
    rw [Routine.bind_of_ok (result_asking_of_fault (congrArg Outcome.result hexecute))]
    rfl
  | ended code data =>
    rw [(yields_asking hrunnable hreply).result_bind]
    dsimp only
    rw [if_pos]
    · rfl
    · by_contra hgood
      simp only [Bool.or_eq_true, not_or, Bool.not_eq_true, decide_eq_true_eq, not_not] at hgood
      obtain ⟨rfl, hwritten⟩ := hgood
      exact h data ⟨hrunnable, hreply, hwritten⟩

/-- Where the command cannot be run, the screenshot breaks off. -/
theorem result_screenshot_of_unrunnable
    (hmade : site.disk.makeFolders (bridge.screenshotPath step).parent = (.ok (), disk₁))
    (h : bridge.isRunnable capturing = false) :
    (bridge.screenshot step site).result = .error (.unrunnable (bridge.fullCommand capturing)) := by
  have hasking : (bridge.asking ⟨disk₁, site.device⟩).result =
      .error (.unrunnable (bridge.fullCommand capturing)) := by
    rw [asking, execute_of_unrunnable h]
    rfl
  rw [result_screenshot hmade, Routine.bind_of_error hasking]

/-! ## Whole screenshots -/

/-- Why taking a screenshot breaks off. -/
inductive Unhandled (bridge : Bridge) (step : Step) (site : Site History) : Fault → Prop
  /-- the folder for it cannot be made -/
  | folder {error : FileError} {disk' : Disk} :
    site.disk.makeFolders (bridge.screenshotPath step).parent = (.error error, disk') →
    Unhandled bridge step site (.file error)
  /-- the command cannot be handed to the system -/
  | command {disk₁ : Disk} :
    site.disk.makeFolders (bridge.screenshotPath step).parent = (.ok (), disk₁) →
    bridge.isRunnable capturing = false →
    Unhandled bridge step site (.unrunnable (bridge.fullCommand capturing))
  /-- what was taken cannot be written -/
  | file {data : Content} {error : FileError} {disk₁ : Disk} :
    site.disk.makeFolders (bridge.screenshotPath step).parent = (.ok (), disk₁) →
    bridge.Taken site.device data → disk₁.write (bridge.screenshotPath step) data = .error error →
    Unhandled bridge step site (.file error)
  /-- the picture cannot be scaled or covered, and the library does not declare this -/
  | picture {taken : Octets} {disk₁ disk₂ : Disk} {fault : Fault} :
    site.disk.makeFolders (bridge.screenshotPath step).parent = (.ok (), disk₁) →
    bridge.Taken site.device (.octets taken) →
    disk₁.write (bridge.screenshotPath step) (.octets taken) = .ok disk₂ →
    Unpreparable bridge.imaging bridge.intervals (bridge.screenshotPath step) taken fault →
    fault.isStorage = false → Unhandled bridge step site fault

/-- Why there is no screenshot, and this is reported. -/
inductive Reported (bridge : Bridge) (step : Step) (site : Site History) : Prop
  /-- nothing is taken: the program is missing, has not ended in time or not well, or has written nothing -/
  | nothing {disk₁ : Disk} :
    site.disk.makeFolders (bridge.screenshotPath step).parent = (.ok (), disk₁) →
    bridge.isRunnable capturing = true → (∀ data, ¬bridge.Taken site.device data) → Reported bridge step site
  /-- the library declares that what was taken cannot be scaled or covered -/
  | picture {taken : Octets} {disk₁ disk₂ : Disk} {fault : Fault} :
    site.disk.makeFolders (bridge.screenshotPath step).parent = (.ok (), disk₁) →
    bridge.Taken site.device (.octets taken) →
    disk₁.write (bridge.screenshotPath step) (.octets taken) = .ok disk₂ →
    Unpreparable bridge.imaging bridge.intervals (bridge.screenshotPath step) taken fault →
    fault.isStorage = true → Reported bridge step site

/-- What comes of a picture that cannot be scaled or covered. -/
theorem result_screenshot_of_unpreparable
    (hmade : site.disk.makeFolders (bridge.screenshotPath step).parent = (.ok (), disk₁))
    (htaken : bridge.Taken site.device (.octets taken))
    (hwrite : disk₁.write (bridge.screenshotPath step) (.octets taken) = .ok disk₂)
    (h : Unpreparable bridge.imaging bridge.intervals (bridge.screenshotPath step) taken fault) :
    (bridge.screenshot step site).result = if fault.isStorage then .ok none else .error fault := by
  obtain ⟨history, hresult⟩ := result_screenshot_of_taken hmade htaken
  rw [hresult, result_keep_of_written hwrite, result_prepare_of_unpreparable (Disk.read_of_write hwrite) h]

theorem Unhandled.result_eq (h : Unhandled bridge step site fault) :
    (bridge.screenshot step site).result = .error fault := by
  cases h with
  | @folder error disk' hfolder =>
    have hmaking : (Site.onDisk (Disk.ensureFolder (bridge.screenshotPath step).parent) site).result =
      .error (.file error) := Disk.result_ensureFolder_of_error hfolder
    rw [screenshot]
    dsimp only
    rw [Routine.bind_of_error hmaking]
  | command hmade hunrunnable => exact result_screenshot_of_unrunnable hmade hunrunnable
  | file hmade htaken hwrite =>
    obtain ⟨history, hresult⟩ := result_screenshot_of_taken hmade htaken
    rw [hresult, result_keep_of_unwritten hwrite]
  | picture hmade htaken hwrite hprepare hstorage =>
    rw [result_screenshot_of_unpreparable hmade htaken hwrite hprepare, hstorage, if_neg Bool.false_ne_true]

theorem Reported.result_eq (h : Reported bridge step site) : (bridge.screenshot step site).result = .ok none := by
  cases h with
  | nothing hmade hrunnable hnothing => exact result_screenshot_of_not_taken hmade hrunnable hnothing
  | picture hmade htaken hwrite hprepare hstorage =>
    rw [result_screenshot_of_unpreparable hmade htaken hwrite hprepare, hstorage, if_pos rfl]

/-- A screenshot breaks off, or there is none, or it is taken. -/
theorem unhandled_or_reported_or_taken (bridge : Bridge) (step : Step) (site : Site History) :
    (∃ fault, Unhandled bridge step site fault) ∨ Reported bridge step site ∨
      ∃ screenshot, (bridge.screenshot step site).result = .ok (some screenshot) := by
  rcases hfolder : site.disk.makeFolders (bridge.screenshotPath step).parent with ⟨_ | _, disk₁⟩
  case error error => exact .inl ⟨_, .folder hfolder⟩
  by_cases htaken : ∃ data, bridge.Taken site.device data
  · obtain ⟨⟨taken⟩, htaken⟩ := htaken
    cases hwrite : disk₁.write (bridge.screenshotPath step) (.octets taken) with
    | error error => exact .inl ⟨_, .file hfolder htaken hwrite⟩
    | ok disk₂ =>
      by_cases hprepare : ∃ fault,
          Unpreparable bridge.imaging bridge.intervals (bridge.screenshotPath step) taken fault
      · obtain ⟨fault, hprepare⟩ := hprepare
        cases hstorage : fault.isStorage with
        | false => exact .inl ⟨fault, .picture hfolder htaken hwrite hprepare hstorage⟩
        | true => exact .inr (.inl (.picture hfolder htaken hwrite hprepare hstorage))
      · obtain ⟨factor, hfactor⟩ :=
          exists_result_prepare (Disk.read_of_write hwrite) (not_exists.1 hprepare)
        obtain ⟨history, hresult⟩ := result_screenshot_of_taken hfolder htaken
        refine .inr (.inr ⟨⟨bridge.screenshotPath step, .real factor⟩, ?_⟩)
        rw [hresult, result_keep_of_written hwrite, hfactor]
  · cases hrunnable : bridge.isRunnable capturing with
    | false => exact .inl ⟨_, .command hfolder hrunnable⟩
    | true => exact .inr (.inl (.nothing hfolder hrunnable (not_exists.1 htaken)))

/-- A screenshot breaks off just for the reasons that are not handled. -/
theorem result_eq_error_iff :
    (bridge.screenshot step site).result = .error fault ↔ Unhandled bridge step site fault := by
  refine ⟨fun h => ?_, Unhandled.result_eq⟩
  rcases unhandled_or_reported_or_taken bridge step site with ⟨fault', hbroken⟩ | hreported | ⟨shot, htaken⟩
  · obtain rfl := Except.error.inj (h.symm.trans hbroken.result_eq)
    exact hbroken
  · cases h.symm.trans hreported.result_eq
  · cases h.symm.trans htaken

/-- There is none just for the reasons that are reported. -/
theorem result_eq_none_iff : (bridge.screenshot step site).result = .ok none ↔ Reported bridge step site := by
  refine ⟨fun h => ?_, Reported.result_eq⟩
  rcases unhandled_or_reported_or_taken bridge step site with ⟨fault, hbroken⟩ | hreported | ⟨shot, htaken⟩
  · cases h.symm.trans hbroken.result_eq
  · exact hreported
  · cases h.symm.trans htaken

/-- With valid intervals and sides as they are documented, the numbers are no reason to break off. -/
theorem Unhandled.file_or_command_or_flaw (h : Unhandled bridge step site fault)
    (hsound : bridge.intervals.Sound) (hwidth : bridge.intervals.normalizedWidth < 2 ^ 64)
    (hsized : bridge.imaging.Sized) :
    (∃ error, fault = .file error) ∨ fault = .unrunnable (bridge.fullCommand capturing) ∨
      ∃ flaw, fault = .imaging flaw ∧ flaw.isDeclared = false := by
  cases h with
  | folder => exact .inl ⟨_, rfl⟩
  | command => exact .inr (.inl rfl)
  | file => exact .inl ⟨_, rfl⟩
  | picture _ _ _ hprepare hstorage =>
    obtain ⟨flaw, rfl⟩ := hprepare.exists_flaw hsound hwidth hsized
    exact .inr (.inr ⟨flaw, rfl, hstorage⟩)

/-- **Where screenshots break off.** Whatever the library for pictures does, taking a screenshot breaks off just
where the folder for it cannot be made, the command cannot be handed to the system, what was taken cannot be
written, the lengths of the scaled picture or the rows to be covered cannot be computed, or the library fails in a
way that it does not declare. There is no screenshot, and nothing breaks off, just where nothing was taken, or
where the library declares its failure. If the intervals are valid and the sides of pictures are as documented,
then the numbers are no reason. -/
theorem screenshot_breaks_iff_unhandled (bridge : Bridge) (step : Step) (site : Site History) :
    (∀ fault, (bridge.screenshot step site).result = .error fault ↔ Unhandled bridge step site fault) ∧
    ((bridge.screenshot step site).result = .ok none ↔ Reported bridge step site) ∧
    ∀ members, Intervals.ofGiven members = .valid bridge.intervals → bridge.intervals.normalizedWidth < 2 ^ 64 →
      bridge.imaging.Sized → ∀ fault, (bridge.screenshot step site).result = .error fault →
      (∃ error, fault = .file error) ∨ fault = .unrunnable (bridge.fullCommand capturing) ∨
        ∃ flaw, fault = .imaging flaw ∧ flaw.isDeclared = false := by
  refine ⟨fun fault => result_eq_error_iff, result_eq_none_iff, fun members hvalid hwidth hsized fault h => ?_⟩
  exact (result_eq_error_iff.1 h).file_or_command_or_flaw (Intervals.sound_of_ofGiven hvalid) hwidth hsized

end Bridge

/-! ## A folder in the place of a screenshot -/

namespace Rehearsal

/-- The pictures of the album are small. -/
theorem sized_album : album.Sized := by
  have hsides {octets : Octets} {width height : Nat} (h : sides octets = .ok (width, height)) :
      (0 < width ∧ width < 0x80000000) ∧ 0 < height ∧ height < 0x80000000 := by
    rw [sides] at h
    split at h
    · cases h
      decide
    · split at h
      · cases h
        decide
      · split at h
        · cases h
          decide
        · cases h
  refine ⟨fun _ _ _ _ => hsides, fun _ octets height h => ?_⟩
  cases hknown : sides octets with
  | error flaw =>
    simp only [album, hknown] at h
    cases h
  | ok known =>
    simp only [album, hknown] at h
    cases h
    exact (hsides hknown).2.2

/-- In the folder for images, there is a folder with the name of a screenshot. -/
def cluttered : Site Bridge.History where
  disk := { nodes := [(["w".toList], .folder), (["images".toList, "w".toList], .folder),
    (["a.png".toList, "images".toList, "w".toList], .folder)] }
  device := []

/-- The step whose screenshot has this name. -/
def obstructed : Step := ⟨"A".toList, [], [], false⟩

/-- A bridge whose intervals are the usual ones, and which answers at once. -/
def blurred : Bridge where
  program := "adb".toList
  serial := none
  folder := { names := ["w".toList] }
  intervals := {}
  replies _ _ := .ended 0 (.octets (Utf8.encode "x".toList))

end Rehearsal

namespace Bridge

/-- A screenshot breaks off at a folder with the name of its file, although the picture is small, and there is
none where the answer is no picture. -/
theorem screenshot_breaks_iff_unhandled_of_folder :
    let fault : Fault := .file ⟨.isFolder, Rehearsal.growing.screenshotPath Rehearsal.obstructed⟩
    (Rehearsal.growing.screenshot Rehearsal.obstructed Rehearsal.cluttered).result = .error fault ∧
      Unhandled Rehearsal.growing Rehearsal.obstructed Rehearsal.cluttered fault ∧
      Reported Rehearsal.blurred Rehearsal.obstructed Rehearsal.housed ∧
      Intervals.ofGiven [("cover_status_bar".toList, .bool false), ("normalized_width".toList, .int 2)] =
        .valid Rehearsal.growing.intervals ∧
      Rehearsal.growing.intervals.normalizedWidth < 2 ^ 64 ∧ Rehearsal.growing.imaging.Sized ∧
      ((∃ error, fault = .file error) ∨ fault = .unrunnable (Rehearsal.growing.fullCommand capturing) ∨
        ∃ flaw, fault = .imaging flaw ∧ flaw.isDeclared = false) := by
  intro fault
  have hbroken : (Rehearsal.growing.screenshot Rehearsal.obstructed Rehearsal.cluttered).result = .error fault :=
    Eq.refl _
  have hnone : (Rehearsal.blurred.screenshot Rehearsal.obstructed Rehearsal.housed).result = .ok none := Eq.refl _
  have hvalid : Intervals.ofGiven [("cover_status_bar".toList, .bool false), ("normalized_width".toList, .int 2)] =
      .valid Rehearsal.growing.intervals := Eq.refl _
  have hwidth : Rehearsal.growing.intervals.normalizedWidth < 2 ^ 64 := by decide
  obtain ⟨hbreaks, -, hfile⟩ :=
    screenshot_breaks_iff_unhandled Rehearsal.growing Rehearsal.obstructed Rehearsal.cluttered
  exact ⟨hbroken, (hbreaks fault).1 hbroken, (screenshot_breaks_iff_unhandled _ _ _).2.1.1 hnone, hvalid, hwidth,
    Rehearsal.sized_album, hfile _ hvalid hwidth Rehearsal.sized_album fault hbroken⟩

/-- Taking a screenshot may break off, although the intervals are valid. -/
theorem screenshot_may_break :
    ¬ ∀ (bridge : Bridge) (step : Step) (site : Site History),
      (∃ members, Intervals.ofGiven members = .valid bridge.intervals) →
      ∃ screenshot, (bridge.screenshot step site).result = .ok screenshot := by
  intro h
  have hvalid : Intervals.ofGiven [] = .valid Rehearsal.blurred.intervals := Eq.refl _
  obtain ⟨screenshot, hshot⟩ := h Rehearsal.blurred Rehearsal.obstructed Rehearsal.cluttered ⟨[], hvalid⟩
  have hbroken : (Rehearsal.blurred.screenshot Rehearsal.obstructed Rehearsal.cluttered).result =
      .error (.file ⟨.isFolder, Rehearsal.blurred.screenshotPath Rehearsal.obstructed⟩) := Eq.refl _
  cases hshot.symm.trans hbroken

end Bridge

end ScreenScript
