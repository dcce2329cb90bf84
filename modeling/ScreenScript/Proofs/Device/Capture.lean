import ScreenScript.Proofs.Device.Orders
import ScreenScript.Proofs.Picture.File

/-!
# Screenshots of the bridge

A screenshot is what one command of the bridge has answered. It is kept in a file, scaled and perhaps
covered, and its factor is the one by which this very picture was scaled, whatever the file held before.

* `Bridge.Keeping` — what is kept of a picture of the screen
* `Bridge.Capture` — a screenshot, with the answer that it came from
* `Bridge.capture_of_yields` — a screenshot that is taken is one
-/

namespace ScreenScript.Bridge

/-- What a library keeps of what was taken from the screen, in the file with this path. -/
inductive Keeping (imaging : Imaging) (intervals : Intervals) (path : Path) (taken : Octets)
    (factor : Binary64) : Octets → Prop
  /-- the picture, scaled -/
  | bare {scaled : Octets} :
    intervals.coversStatusBar = false →
    Picture.Scaling imaging path (.int intervals.normalizedWidth) taken factor scaled →
    Keeping imaging intervals path taken factor scaled
  /-- the picture, scaled and with its status bar covered -/
  | covered {scaled covered : Octets} :
    intervals.coversStatusBar = true →
    Picture.Scaling imaging path (.int intervals.normalizedWidth) taken factor scaled →
    Picture.Covering imaging path (.real intervals.statusBarShare) scaled covered →
    Keeping imaging intervals path taken factor covered

/-- The command that takes a picture of the screen. -/
def capturing : BridgeCommand := ["exec-out".toList, "screencap".toList, "-p".toList]

/-- A screenshot that was taken for a step, and the octets that are kept of it: both come from the answer
to a single command. -/
structure Capture (bridge : Bridge) (step : Step) (site : Site History) (screenshot : Screenshot)
    (site' : Site History) (kept : Octets) : Prop where
  path : screenshot.path = bridge.screenshotPath step
  answer : ∃ taken factor, bridge.replies site.device (bridge.withDevice capturing) =
      .ended 0 (.octets taken) ∧
    Keeping bridge.imaging bridge.intervals screenshot.path taken factor kept ∧
    screenshot.factor = .real factor
  read : site'.disk.read screenshot.path = .ok (.octets kept)
  device : site'.device = bridge.withDevice capturing :: site.device

variable {bridge : Bridge} {imaging : Imaging} {disk disk' : Disk} {path : Path} {events : List Event}

/-- A file that is prepared holds what is kept of the picture in it. -/
theorem prepare_yields {intervals : Intervals} {factor : Binary64}
    (h : (prepare imaging intervals path).Yields disk factor disk' events) :
    ∃ taken kept, disk.read path = .ok (.octets taken) ∧ Keeping imaging intervals path taken factor kept ∧
      disk'.read path = .ok (.octets kept) ∧ events = [] := by
  rw [prepare, Routine.yields_bind] at h
  obtain ⟨factor', disk₁, earlier, later, hscale, h, rfl⟩ := h
  obtain ⟨taken, scaled, htaken, hscaling, hscaled, rfl⟩ := Picture.scaleFile_yields hscale
  cases hcovers : intervals.coversStatusBar with
  | false =>
    rw [hcovers, if_neg Bool.false_ne_true] at h
    obtain ⟨rfl, rfl, rfl⟩ := Routine.yields_pure.1 h
    exact ⟨taken, scaled, htaken, .bare hcovers hscaling, hscaled, rfl⟩
  | true =>
    rw [hcovers, if_pos rfl, Routine.yields_bind] at h
    obtain ⟨u, disk₂, covering, rest, hcover, h, rfl⟩ := h
    obtain ⟨shown, covered, hshown, hcovering, hcovered, rfl⟩ := Picture.coverFile_yields hcover
    obtain ⟨rfl, rfl, rfl⟩ := Routine.yields_pure.1 h
    -- what is covered is what scaling has put into the file
    obtain rfl : scaled = shown := congrArg Content.toOctets (Except.ok.inj (hscaled.symm.trans hshown))
    exact ⟨taken, covered, htaken, .covered hcovers hscaling hcovering, hcovered, rfl⟩

/-- What is kept of a file that was written before comes from what was written. -/
theorem kept_of_write {intervals : Intervals} {data : Content} {disk₁ : Disk} {factor : Binary64}
    (hwrite : disk.write path data = .ok disk₁)
    (h : (prepare imaging intervals path).Yields disk₁ factor disk' events) :
    ∃ taken kept, data = .octets taken ∧ Keeping imaging intervals path taken factor kept ∧
      disk'.read path = .ok (.octets kept) ∧ events = [] := by
  obtain ⟨taken, kept, htaken, hkeeping, hkept, rfl⟩ := prepare_yields h
  rw [Disk.read_of_write hwrite] at htaken
  exact ⟨taken, kept, Except.ok.inj htaken, hkeeping, hkept, rfl⟩

theorem execute_yields {command : BridgeCommand} {history history' : History} {code : Int}
    {output : Content} (h : (bridge.execute command).Yields history (code, output) history' events) :
    bridge.replies history (bridge.withDevice command) = .ended code output ∧
      history' = bridge.withDevice command :: history ∧
      events = [.ran (bridge.fullCommand command)] := by
  cases hrunnable : bridge.isRunnable command with
  | false =>
    rw [execute_of_unrunnable hrunnable] at h
    exact absurd h Routine.yields_fail
  | true =>
    have happly := execute_apply hrunnable history
    cases hreply : bridge.replies history (bridge.withDevice command) with
    | missing =>
      rw [hreply] at happly
      exact absurd (congrArg Outcome.result happly) (h.not_error _)
    | silent =>
      rw [hreply] at happly
      exact absurd (congrArg Outcome.result happly) (h.not_error _)
    | ended code' output' =>
      rw [hreply] at happly
      obtain ⟨heq, rfl, rfl⟩ := (Routine.yields_of_apply happly).1 h
      obtain ⟨rfl, rfl⟩ := Prod.mk.inj heq
      exact ⟨rfl, rfl, rfl⟩

/-- A screenshot that is taken comes from one command, and its file holds what is kept of the picture. -/
theorem capture_of_yields {step : Step} {site site' : Site History} {screenshot : Screenshot}
    (h : (bridge.screenshot step).Yields site (some screenshot) site' events) :
    ∃ kept, bridge.Capture step site screenshot site' kept ∧
      events = [.ran (bridge.fullCommand capturing)] := by
  rw [Bridge.screenshot, Routine.yields_bind] at h
  obtain ⟨u, site₁, making, later, hmaking, h, rfl⟩ := h
  obtain ⟨disk₁, hfolder, rfl⟩ := Routine.yields_within.1 hmaking
  obtain ⟨-, rfl⟩ := Disk.yields_ensureFolder.1 hfolder
  obtain ⟨u₁, hasking⟩ := Routine.silent_say.of_bind h
  rw [Routine.yields_bind] at hasking
  obtain ⟨reply, site₂, asking, later, hreply, hkeeping, rfl⟩ := hasking
  rcases Routine.yields_attempt.1 hreply with ⟨⟨code, data⟩, rfl, hexecute⟩ | ⟨fault, b, rfl, -⟩
  · obtain ⟨history, hhistory, rfl⟩ := Routine.yields_within.1 hexecute
    obtain ⟨hanswer, rfl, rfl⟩ := execute_yields hhistory
    dsimp only at hkeeping
    split at hkeeping
    · obtain ⟨u₂, hpure⟩ := Routine.silent_say.of_bind hkeeping
      cases (Routine.yields_pure.1 hpure).1
    · next hgood =>
      obtain rfl : code = 0 := by
        by_cases hcode : code = 0
        · exact hcode
        · exact absurd (by simp [hcode]) hgood
      rw [Routine.yields_bind] at hkeeping
      obtain ⟨u₂, site₃, writing, rest, hwriting, hprepare, rfl⟩ := hkeeping
      obtain ⟨disk₂, hwrite, rfl⟩ := Routine.yields_within.1 hwriting
      obtain ⟨hwritten, rfl⟩ := Disk.yields_writeContent.1 hwrite
      rw [Routine.yields_bind] at hprepare
      obtain ⟨factor?, site₄, preparing, last, hprepared, hlast, rfl⟩ := hprepare
      rcases Routine.yields_attempt.1 hprepared with ⟨factor, rfl, hfactor⟩ | ⟨fault, b, rfl, -⟩
      · obtain ⟨disk₃, hprepare, rfl⟩ := Routine.yields_within.1 hfactor
        obtain ⟨taken, kept, rfl, hkeeping, hkept, rfl⟩ := kept_of_write hwritten hprepare
        obtain ⟨u₃, hpure⟩ := Routine.silent_say.of_bind hlast
        obtain ⟨hshot, rfl, rfl⟩ := Routine.yields_pure.1 hpure
        obtain rfl := Option.some.inj hshot
        exact ⟨kept, ⟨rfl, ⟨taken, factor, hanswer, hkeeping, rfl⟩, hkept, rfl⟩, rfl⟩
      · obtain ⟨u₃, hpure⟩ := Routine.silent_say.of_bind hlast
        cases (Routine.yields_pure.1 hpure).1
  · obtain ⟨u₂, hpure⟩ := Routine.silent_say.of_bind hkeeping
    cases (Routine.yields_pure.1 hpure).1

end ScreenScript.Bridge
