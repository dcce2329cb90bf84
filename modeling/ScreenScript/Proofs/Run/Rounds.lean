import ScreenScript.Proofs.Device.Capture
import ScreenScript.Proofs.Run.Gestures
import ScreenScript.Proofs.Run.Memory
import ScreenScript.Proofs.Text.Base64

/-!
# Which screenshot actions belong to

The factor of the last screenshot is kept in the context, where the interpreter finds it when the actions
of a response are carried out. Between the two stand the file of the screenshot, the request, and the
response, and each of them may fail. A response that is accepted still meets the factor of the screenshot
that was sent in its request, whatever screenshots there were before. Which request that is tells the number of
requests before it.

* `Engine.Round` — a round of a step, from its screenshot to the actions of its response
* `Engine.Paired` — every response that is accepted belongs to a round
* `Engine.Compositional` — what holds of a history if it holds of its parts
* `Engine.actions_follow_screenshot` — runs in a row are paired, also over the bridge
-/

namespace ScreenScript

/-! ## Rounds -/

namespace Engine

variable {δ : Type}

/-- A round of a step whose response is accepted. -/
structure Round (engine : Engine δ) where
  /-- the step -/
  task : StepTask
  /-- the context when the screenshot is sent -/
  context : RunContext
  /-- the number of requests that were sent before -/
  sent : Nat
  /-- the site before the screenshot -/
  before : Site δ
  /-- the site behind it -/
  seen : Site δ
  /-- the files when its file was read -/
  disk : Disk
  /-- the site behind the actions -/
  after : Site δ
  /-- the screenshot -/
  screenshot : Screenshot
  /-- what was in its file -/
  image : EncodedImage
  /-- the response -/
  response : StepResponse
  /-- its actions -/
  actions : List Text
  /-- the inputs that the device refused -/
  errors : List SoftError
  /-- what happened during the screenshot -/
  shooting : List Event
  /-- what happened when its file was read -/
  reading : List Event
  /-- what the actions did -/
  acting : List Event
  shot : (engine.device.screenshot task.step).Yields before (some screenshot) seen shooting
  read : (Picture.encodeFile screenshot.path).Yields seen.disk (some image) disk reading
  answered : engine.service.response? sent (.step (requestFor task context image)) = some response
  named : response.actions = some actions
  acted : Interpreter.Acting ⟨engine.device, screenshot.factor, engine.intervals.actionDelay⟩ actions
    { seen with disk } errors after acting

namespace Round

variable {engine : Engine δ}

/-- What stands in front of the response: the screenshot, and the request that sends it. -/
def asking (round : engine.Round) : History :=
  History.ofEvents round.shooting ++ [.captured round.screenshot] ++ History.ofEvents round.reading ++
    Moment.asked engine.service (.step (requestFor round.task round.context round.image))

end Round

/-- Every response that is accepted belongs to a round, if `sent` requests were sent before the history: its
request stands right in front of it, with the screenshot that was sent, and the service has given the response to
just this request of all. Its actions are carried out right behind it, with the factor of that screenshot. -/
def Paired (engine : Engine δ) (sent : Nat) (history : History) : Prop :=
  ∀ (before after : History) (response : StepResponse),
    history = before ++ .answered response :: after → response.isAccepted = true →
    ∃ round : engine.Round, round.response = response ∧
      (∃ start, before = start ++ round.asking ∧ round.sent = sent + start.requests.length) ∧
      ∃ rest, after = History.ofEvents round.acting ++ rest

/-! ## Histories by their parts -/

/-- The property holds of a history, before which some requests were sent, if it holds of its parts, and it holds
of everything that is no response to a step. -/
structure Compositional (engine : Engine δ) (P : Nat → History → Prop) : Prop where
  append : ∀ {sent : Nat} {history later : History}, P sent history →
    P (sent + history.requests.length) later → P sent (history ++ later)
  ofEvents : ∀ sent events, P sent (.ofEvents events)
  described : ∀ sent text, P sent [.described text]
  summary : ∀ sent script context, P sent (Moment.asked engine.service (.summary script context))
  processing : ∀ {task : StepTask} {s s' : Session δ} {response : Option StepResponse}
    {history : History}, engine.Processing task s response s' history → P s.sent history

variable {engine : Engine δ} {P : Nat → History → Prop} {script : Text} {s s₁ s' : Session δ} {ok : Bool}
  {sent : Nat} {history later : History}

namespace Compositional

theorem nil (hP : engine.Compositional P) (sent : Nat) : P sent [] := hP.ofEvents sent []

/-- The property holds of two histories in a row if the sessions are linked by the first one. -/
theorem follow (hP : engine.Compositional P) (hlinks : history.Links engine.service s s₁)
    (h : P s.sent history) (h' : P s₁.sent later) : P s.sent (history ++ later) := by
  rw [hlinks.sent] at h'
  exact hP.append h h'

end Compositional

theorem Repeating.of_parts (hP : engine.Compositional P) {task : StepTask} {rounds : Nat}
    (h : engine.Repeating task rounds s ok s' history) : P s.sent history := by
  induction h with
  | exhausted s => exact hP.nil s.sent
  | refused hprocessing => exact hP.processing hprocessing
  | stopped hprocessing hstop => exact hP.processing hprocessing
  | again hprocessing hstop _ ih => exact hP.follow hprocessing.links (hP.processing hprocessing) ih

theorem Executing.of_parts (hP : engine.Compositional P) {task : Task}
    (h : engine.Executing task s ok s' history) : P s.sent history := by
  cases h with
  | description text s => exact hP.described s.sent text
  | repeating hkind hrepeating => exact hrepeating.of_parts hP
  | once hkind hprocessing => exact hP.processing hprocessing
  | other hscreen hdescription hyields => exact hP.ofEvents s.sent _

theorem Following.of_parts (hP : engine.Compositional P) {tasks : List Task}
    (h : engine.Following tasks s s' history) : P s.sent history := by
  induction h with
  | nil s => exact hP.nil s.sent
  | cons hexecuting _ ih =>
    have hpause := hP.append (hexecuting.of_parts hP) (hP.ofEvents _ engine.taskPause)
    exact hP.follow (hexecuting.links.append (History.links_ofEvents rfl rfl)) hpause ih

theorem Running.of_parts (hP : engine.Compositional P) {tasks : List Task}
    (h : engine.Running tasks script s ok s' history) : P s.sent history := by
  cases h with
  | absent hasking => exact hP.ofEvents s.sent _
  | @failed done rest task site s₁ _ asking following last hasking htasks hfollowing hexecuting =>
    have hlinks : (History.ofEvents asking).Links engine.service s { s with site } :=
      History.links_ofEvents rfl rfl
    have hdone := hP.follow hlinks (hP.ofEvents s.sent asking) (hfollowing.of_parts hP)
    exact hP.follow (hlinks.append hfollowing.links) hdone (hexecuting.of_parts hP)
  | @finished site s₁ asking last following hasking hfollowing hsum =>
    have hlinks : (History.ofEvents asking).Links engine.service s { s with site } :=
      History.links_ofEvents rfl rfl
    have hdone := hP.follow hlinks (hP.ofEvents s.sent asking) (hfollowing.of_parts hP)
    exact hP.append hdone (hP.summary _ script s₁.context.joined)

/-- What is compositional holds of runs in a row. -/
theorem Succession.of_parts (hP : engine.Compositional P) {runs : List (List Task × Text)}
    {oks : List Bool} (h : engine.Succession runs s oks s' history) : P s.sent history := by
  induction h with
  | nil s => exact hP.nil s.sent
  | cons hrunning _ ih => exact hP.follow hrunning.links (hrunning.of_parts hP) ih

/-! ## Responses and their rounds -/

/-- No response is in a history. -/
def Unanswered (history : History) : Prop := ∀ response, .answered response ∉ history

theorem unanswered_ofEvents (events : List Event) : Unanswered (.ofEvents events) := by
  intro response hmem
  obtain ⟨event, -, heq⟩ := List.mem_map.1 hmem
  cases heq

theorem unanswered_asked (service : VisionService) (request : VisionRequest) :
    Unanswered (Moment.asked service request) := by
  intro response hmem
  rw [Moment.asked] at hmem
  split at hmem <;> simp at hmem

theorem Unanswered.append (h : Unanswered history) (h' : Unanswered later) :
    Unanswered (history ++ later) := by
  intro response hmem
  rcases List.mem_append.1 hmem with hmem | hmem
  · exact h response hmem
  · exact h' response hmem

/-- Up to a request, nothing is answered. -/
theorem unanswered_shown (screenshot : Screenshot) (shooting reading : List Event) :
    Unanswered (History.ofEvents shooting ++ [.captured screenshot] ++ History.ofEvents reading) := by
  refine ((unanswered_ofEvents shooting).append ?_).append (unanswered_ofEvents reading)
  intro response hmem
  simp at hmem

theorem Unanswered.paired (h : Unanswered history) : engine.Paired sent history := by
  rintro before after response rfl
  exact absurd (by simp) (h response)

theorem Paired.append (h : engine.Paired sent history)
    (h' : engine.Paired (sent + history.requests.length) later) : engine.Paired sent (history ++ later) := by
  intro before after response heq haccepted
  -- a round of the second history has all requests of the first one before it
  have hlater (before' : History) (hbefore : later = before' ++ .answered response :: after) :
      ∃ round : engine.Round, round.response = response ∧
        (∃ start, history ++ before' = start ++ round.asking ∧
          round.sent = sent + start.requests.length) ∧
        ∃ rest, after = History.ofEvents round.acting ++ rest := by
    obtain ⟨round, hresponse, ⟨start, rfl, hsent⟩, hrest⟩ := h' before' after response hbefore haccepted
    refine ⟨round, hresponse, ⟨history ++ start, (List.append_assoc ..).symm, ?_⟩, hrest⟩
    rw [hsent, History.requests_append, List.length_append, Nat.add_assoc]
  -- the response stands in one of the two histories
  rcases List.append_eq_append_iff.1 heq with ⟨between, rfl, hbefore⟩ | ⟨between, hhistory, hafter⟩
  · exact hlater _ hbefore
  · cases between with
    | nil =>
      rw [List.append_nil] at hhistory
      rw [← hhistory, ← List.append_nil history]
      exact hlater [] hafter.symm
    | cons moment between =>
      obtain ⟨rfl, rfl⟩ := List.cons.inj hafter
      obtain ⟨round, hresponse, hstart, rest, rfl⟩ := h before between response hhistory haccepted
      exact ⟨round, hresponse, hstart, rest ++ later, List.append_assoc ..⟩

/-- A history with a single response is paired if that one is rejected or belongs to a round. -/
theorem paired_of_answered {response : StepResponse} (h : Unanswered history)
    (h' : Unanswered later)
    (hround : response.isAccepted = true → ∃ round : engine.Round, round.response = response ∧
      (∃ start, history = start ++ round.asking ∧ round.sent = sent + start.requests.length) ∧
      ∃ rest, later = .ofEvents round.acting ++ rest) :
    engine.Paired sent (history ++ .answered response :: later) := by
  intro before after response' heq haccepted
  obtain ⟨rfl, hsame, rfl⟩ := (List.append_cons_inj_of_notMem (h response') (h' response')).1 heq
  obtain rfl := Moment.answered.inj hsame
  exact hround haccepted

/-- A step that is processed once is paired. -/
theorem Processing.paired {task : StepTask} {response : Option StepResponse}
    (h : engine.Processing task s response s' history) : engine.Paired s.sent history := by
  cases h with
  | unseen hshot => exact (unanswered_ofEvents _).paired
  | unreadable hshot hread => exact (unanswered_shown _ _ _).paired
  | sent hshot hread hconsulting =>
    cases hconsulting with
    | unanswered hfault hcaught =>
      exact ((unanswered_shown _ _ _).append (unanswered_asked _ _)).paired
    | rejected hresponse hrejected =>
      rw [← List.append_assoc]
      refine paired_of_answered ((unanswered_shown _ _ _).append (unanswered_asked _ _))
        (unanswered_ofEvents []) fun haccepted => ?_
      rw [hrejected] at haccepted
      cases haccepted
    | accepted hresponse haccepted hactions hacting =>
      rw [← List.append_assoc, ← List.append_assoc, List.append_assoc, List.singleton_append]
      refine paired_of_answered ((unanswered_shown _ _ _).append (unanswered_asked _ _))
        (unanswered_ofEvents _) fun _ => ?_
      exact ⟨⟨_, _, _, _, _, _, _, _, _, _, _, _, _, _, _, hshot, hread,
        VisionService.response?_of_processStep hresponse, hactions,
        Interpreter.acting_of_yields hacting⟩, rfl, ⟨[], rfl, rfl⟩, [], (List.append_nil _).symm⟩

/-- To be paired is compositional. -/
theorem compositional_paired (engine : Engine δ) : engine.Compositional engine.Paired where
  append := Paired.append
  ofEvents sent events := (unanswered_ofEvents events).paired
  described sent text := by
    refine Unanswered.paired fun response hmem => ?_
    simp at hmem
  summary sent script context := (unanswered_asked _ _).paired
  processing := Processing.paired

/-! ## The runs -/

/-- **Actions follow their screenshot.** In runs in a row, from whatever session on, every response that is
accepted belongs to a round: its points are converted with the factor of the screenshot that was sent in
the request that it answers. Over the bridge, whatever library it has for pictures, both come from the answer to
the one command of that screenshot: the image is a text of Base64 that stands for the octets which its file then
holds, and the factor is the one by which it was scaled. -/
theorem actions_follow_screenshot :
    (∀ (δ : Type) (engine : Engine δ) (runs : List (List Task × Text)) (s : Session δ) (oks : List Bool),
      (engine.runEach runs s).result = .ok oks →
      ∃ history, engine.Succession runs s oks (engine.runEach runs s).state history ∧
        (engine.runEach runs s).trace = history.events ∧ engine.Paired s.sent history) ∧
    ∀ (engine : Engine Bridge.History) (bridge : Bridge) (round : engine.Round),
      engine.device = bridge.device →
      ∃ kept, bridge.Capture round.task.step round.before round.screenshot round.seen kept ∧
        round.image.toText = Base64.encode kept ∧ Base64.decode? round.image.toText = some kept := by
  constructor
  · intro δ engine runs s oks h
    obtain ⟨history, hsuccession, htrace⟩ := succession_of_yields (Routine.yields_of_result h)
    exact ⟨history, hsuccession, htrace, hsuccession.of_parts engine.compositional_paired⟩
  · intro engine bridge round hdevice
    have hshot := round.shot
    rw [hdevice] at hshot
    obtain ⟨kept, hcapture, -⟩ := Bridge.capture_of_yields hshot
    obtain ⟨content, hcontent, himage, -⟩ := Picture.encodeFile_yields round.read
    rw [hcapture.read] at hcontent
    obtain rfl := Except.ok.inj hcontent
    have htext : round.image.toText = Base64.encode kept := by rw [himage, EncodedImage.toText]
    exact ⟨kept, hcapture, htext, by rw [htext, Base64.decode?_encode]⟩

end Engine

/-! ## A rehearsal over the bridge -/

namespace Rehearsal

/-- A picture of the screen in one colour, with four columns and six rows. -/
def smallScreen : Octets :=
  [137, 80, 78, 71, 13, 10, 26, 10, 0, 0, 0, 13, 73, 72, 68, 82, 0, 0, 0, 4, 0, 0, 0, 6, 8, 2, 0, 0, 0, 107, 91,
    168, 34, 0, 0, 0, 16, 73, 68, 65, 84, 120, 156, 99, 96, 100, 98, 134, 35, 6, 74, 57, 0, 22, 14, 0, 145, 153,
    21, 252, 104, 0, 0, 0, 0, 73, 69, 78, 68, 174, 66, 96, 130]

/-- The same with eight columns and twelve rows. -/
def largeScreen : Octets :=
  [137, 80, 78, 71, 13, 10, 26, 10, 0, 0, 0, 13, 73, 72, 68, 82, 0, 0, 0, 8, 0, 0, 0, 12, 8, 2, 0, 0, 0, 208,
    252, 107, 202, 0, 0, 0, 18, 73, 68, 65, 84, 120, 156, 99, 96, 100, 98, 198, 138, 24, 70, 37, 208, 17, 0, 81,
    251, 2, 65, 26, 8, 57, 77, 0, 0, 0, 0, 73, 69, 78, 68, 174, 66, 96, 130]

/-- What both of them are if they are put into two columns and three rows. -/
def tinyScreen : Octets :=
  [137, 80, 78, 71, 13, 10, 26, 10, 0, 0, 0, 13, 73, 72, 68, 82, 0, 0, 0, 2, 0, 0, 0, 3, 8, 6, 0, 0, 0, 185,
    234, 222, 129, 0, 0, 0, 17, 73, 68, 65, 84, 120, 156, 99, 96, 100, 98, 254, 15, 194, 12, 24, 12, 0, 73, 191,
    6, 31, 0, 202, 130, 45, 0, 0, 0, 0, 73, 69, 78, 68, 174, 66, 96, 130]

/-- The sides of these pictures; there are no others. -/
def sides (octets : Octets) : Except ImagingFlaw (Nat × Nat) :=
  if octets = smallScreen then .ok (4, 6)
  else if octets = largeScreen then .ok (8, 12)
  else if octets = tinyScreen then .ok (2, 3)
  else .error (.refused "cannot identify image file".toList)

/-- A library that knows these pictures. It puts them into two columns and three rows, and covers nothing. -/
def album : Imaging where
  size _ octets := sides octets
  resize _ octets _ _ := do
    let _ ← sides octets
    return { written := tinyScreen }
  height _ octets := do return (← sides octets).2
  cover _ octets _ := do
    let _ ← sides octets
    return { written := octets }

/-- A bridge to a device whose screen is twice as large from the second picture of it on. -/
def growing : Bridge where
  program := "adb".toList
  serial := none
  folder := { names := ["w".toList] }
  intervals := { normalizedWidth := 2, coversStatusBar := false }
  replies history command :=
    if command = Bridge.capturing then
      .ended 0 (.octets (if history.elem Bridge.capturing then largeScreen else smallScreen))
    else
      .ended 0 (.octets (Utf8.encode "d device".toList))
  imaging := album

/-- An engine on this device, whose service always asks for the same tap. -/
def tapping : Engine Bridge.History where
  device := growing.device
  service :=
    { url := "https://v/".toList, apiKey := "k".toList, clientKey := "c".toList
      deliveries := fun _ => .answered 200 [] (Utf8.encode "\x7b\"actions\":[\"tap 1,2\"]\x7d".toList) }
  intervals := growing.intervals

/-- A step without anything to be checked or done. -/
def bareStep : StepTask := { step := ⟨"s".toList, [], [], false⟩ }

/-- Two runs of this step, behind a screenshot that was scaled by seven. -/
def tappingTwice : Outcome (Session Bridge.History) (List Bool) :=
  tapping.runEach [([.screen bareStep], []), ([.screen bareStep], [])]
    { site := ⟨{}, []⟩, context := { factor := .int 7 } }

/-- The screenshot of the first run. -/
def firstShot : Outcome (Site Bridge.History) (Option Screenshot) :=
  growing.screenshot bareStep.step ⟨{}, []⟩

/-- The file of this screenshot. -/
def firstPath : Path := growing.screenshotPath bareStep.step

/-- What is read from this file. -/
def firstReading : Outcome Disk (Option EncodedImage) := Picture.encodeFile firstPath firstShot.state.disk

/-- The image that is sent in the first run. -/
def firstImage : EncodedImage := firstReading.result.toOption.join.getD default

/-- The actions of the first run. -/
def firstActs : Outcome (Site Bridge.History) (List SoftError) :=
  Interpreter.performAll ⟨growing.device, .real .half, 1000⟩ ["tap 1,2".toList]
    { firstShot.state with disk := firstReading.state }

theorem result_firstShot : firstShot.result = .ok (some ⟨firstPath, .real .half⟩) :=
  Routine.result_of_toOption (by decide +kernel)

theorem result_firstReading : firstReading.result = .ok (some firstImage) :=
  Routine.result_of_isSome (by decide +kernel)

theorem result_firstActs : firstActs.result = .ok [] :=
  Routine.result_of_toOption (by decide +kernel)

/-- The round of the first run. -/
def firstRound : tapping.Round where
  task := bareStep
  context := {}
  sent := 0
  before := ⟨{}, []⟩
  seen := firstShot.state
  disk := firstReading.state
  after := firstActs.state
  screenshot := ⟨firstPath, .real .half⟩
  image := firstImage
  response := { actions := some ["tap 1,2".toList] }
  actions := ["tap 1,2".toList]
  errors := []
  shooting := firstShot.trace
  reading := firstReading.trace
  acting := firstActs.trace
  shot := Routine.yields_of_result result_firstShot
  read := Routine.yields_of_result result_firstReading
  answered := by decide +kernel
  named := rfl
  acted := Interpreter.acting_of_yields (Routine.yields_of_result result_firstActs)

end Rehearsal

namespace Engine

/-- On a screen that grows, the same tap goes to another point. -/
theorem actions_follow_screenshot_of_growing :
    Rehearsal.tappingTwice.result = .ok [true, true] ∧
      (∃ history, Rehearsal.tappingTwice.trace = History.events history ∧
        Rehearsal.tapping.Paired 0 history) ∧
      Rehearsal.tappingTwice.trace.filterMap Event.command? =
        [["adb", "devices"], ["adb", "exec-out", "screencap", "-p"],
          ["adb", "shell", "input", "tap", "2", "4"], ["adb", "devices"],
          ["adb", "exec-out", "screencap", "-p"], ["adb", "shell", "input", "tap", "4", "8"]].map
          (·.map String.toList) ∧
      ∃ kept, Rehearsal.growing.Capture Rehearsal.firstRound.task.step Rehearsal.firstRound.before
          Rehearsal.firstRound.screenshot Rehearsal.firstRound.seen kept ∧
        Base64.decode? Rehearsal.firstRound.image.toText = some kept := by
  have hrun : Rehearsal.tappingTwice.result = .ok [true, true] :=
    Routine.result_of_toOption (by decide +kernel)
  obtain ⟨history, -, htrace, hpaired⟩ := actions_follow_screenshot.1 _ _ _ _ _ hrun
  obtain ⟨kept, hcapture, -, hdecoded⟩ :=
    actions_follow_screenshot.2 _ Rehearsal.growing Rehearsal.firstRound rfl
  exact ⟨hrun, ⟨history, htrace, hpaired⟩, by decide +kernel, kept, hcapture, hdecoded⟩

end Engine

end ScreenScript
