import ScreenScript.Proofs.Run.Course
import ScreenScript.Proofs.Run.Processing

/-!
# What a run remembers

The context is carried from task to task, from one round of a repeating step to the next, and from run to
run. Nothing but a description and a response ever changes what was seen, so every request says what the
whole history before it has left. Nothing but a response changes which response is named as the last one.

* `Engine.Repeating`, `Engine.Executing`, `Engine.Following`, `Engine.Running`, `Engine.Succession` — how
  histories are put together
* `Engine.runEach` — one run after the other
* `Engine.requests_remember` — what the requests of a succession of runs say
* `Engine.requests_name_last_response` — which response they name
-/

namespace ScreenScript

namespace Engine

variable {δ : Type}

/-! ## Histories -/

/-- The rounds of a repeating step, up to as many as it has left. -/
inductive Repeating (engine : Engine δ) (task : StepTask) :
    Nat → Session δ → Bool → Session δ → History → Prop
  /-- there is no round left -/
  | exhausted (s : Session δ) : Repeating engine task 0 s false s []
  /-- the step is not processed -/
  | refused {rounds : Nat} {s s' : Session δ} {history : History} :
    engine.Processing task s none s' history → Repeating engine task (rounds + 1) s false s' history
  /-- the service asks to stop -/
  | stopped {rounds : Nat} {s s' : Session δ} {response : StepResponse} {history : History} :
    engine.Processing task s (some response) s' history → hasStop (response.actions.getD []) = true →
    Repeating engine task (rounds + 1) s true s' history
  /-- there is another round -/
  | again {rounds : Nat} {s s₁ s' : Session δ} {response : StepResponse} {ok : Bool}
    {history later : History} :
    engine.Processing task s (some response) s₁ history → hasStop (response.actions.getD []) = false →
    Repeating engine task rounds s₁ ok s' later →
    Repeating engine task (rounds + 1) s ok s' (history ++ later)

/-- A task that is carried out. -/
inductive Executing (engine : Engine δ) : Task → Session δ → Bool → Session δ → History → Prop
  /-- a description -/
  | description (text : Text) (s : Session δ) :
    Executing engine (.description text) s true { s with context := s.context.describe text }
      [.described text]
  /-- a repeating step -/
  | repeating {task : StepTask} {s s' : Session δ} {ok : Bool} {history : History} :
    task.kind = .repeating → engine.Repeating task task.maxRepeats.toNat s ok s' history →
    Executing engine (.screen task) s ok s' history
  /-- any other step -/
  | once {task : StepTask} {s s' : Session δ} {response : Option StepResponse} {history : History} :
    task.kind ≠ .repeating → engine.Processing task s response s' history →
    Executing engine (.screen task) s response.isSome s' history
  /-- anything else, of which only the events are told -/
  | other {task : Task} {s s' : Session δ} {ok : Bool} {events : List Event} :
    task.isScreen = false → (∀ text, task ≠ .description text) →
    (engine.execute task).Yields s ok s' events →
    Executing engine task s ok s' (History.ofEvents events)

/-- Tasks that go well one after the other, each followed by a pause. -/
inductive Following (engine : Engine δ) : List Task → Session δ → Session δ → History → Prop
  | nil (s : Session δ) : Following engine [] s s []
  | cons {task : Task} {tasks : List Task} {s s₁ s' : Session δ} {history later : History} :
    engine.Executing task s true s₁ history → Following engine tasks s₁ s' later →
    Following engine (task :: tasks) s s' (history ++ History.ofEvents engine.taskPause ++ later)

/-- A run. -/
inductive Running (engine : Engine δ) (tasks : List Task) (script : Text) (s : Session δ) :
    Bool → Session δ → History → Prop
  /-- the device is not there -/
  | absent {site : Site δ} {asking : List Event} :
    engine.device.isConnected.Yields s.site false site asking →
    Running engine tasks script s false { s with site } (History.ofEvents asking)
  /-- a task fails -/
  | failed {done rest : List Task} {task : Task} {site : Site δ} {s₁ s' : Session δ}
    {asking : List Event} {history last : History} :
    engine.device.isConnected.Yields s.site true site asking →
    tasks = done ++ task :: rest → engine.Following done { s with site } s₁ history →
    engine.Executing task s₁ false s' last →
    Running engine tasks script s false s' (History.ofEvents asking ++ history ++ last)
  /-- every task goes well -/
  | finished {site : Site δ} {s₁ : Session δ} {asking last : List Event} {history : History} :
    engine.device.isConnected.Yields s.site true site asking →
    engine.Following tasks { s with site } s₁ history → engine.SumsUp script s₁ last →
    Running engine tasks script s true { s₁ with sent := s₁.sent + last.length }
      (History.ofEvents asking ++ history ++
        Moment.asked engine.service (.summary script s₁.context.joined))

/-- Runs one after the other, each with its tasks and the text of its script. -/
inductive Succession (engine : Engine δ) :
    List (List Task × Text) → Session δ → List Bool → Session δ → History → Prop
  | nil (s : Session δ) : Succession engine [] s [] s []
  | cons {tasks : List Task} {script : Text} {runs : List (List Task × Text)} {s s₁ s' : Session δ}
    {ok : Bool} {oks : List Bool} {history later : History} :
    engine.Running tasks script s ok s₁ history → Succession engine runs s₁ oks s' later →
    Succession engine ((tasks, script) :: runs) s (ok :: oks) s' (history ++ later)

/-- Runs scripts one after the other, with one context for all of them. -/
def runEach (engine : Engine δ) : List (List Task × Text) → Routine (Session δ) (List Bool)
  | [] => return []
  | (tasks, script) :: runs => do
    let ok ← engine.run tasks script
    let oks ← engine.runEach runs
    return ok :: oks

variable {engine : Engine δ} {script : Text} {s s' : Session δ} {ok : Bool} {events : List Event}
  {history : History}

/-! ## What stays as it is -/

theorem settle_yields {m : Routine (Site δ) Bool} {delay : Int}
    (h : (settle m delay).Yields s ok s' events) : ∃ site, s' = { s with site } := by
  rw [settle, Session.yields_onSite_bind] at h
  obtain ⟨ok, site, acting, later, hacting, h, rfl⟩ := h
  obtain ⟨later, hpure, rfl⟩ := Routine.pause_bind_yields h
  obtain ⟨rfl, rfl, rfl⟩ := Routine.yields_pure.1 hpure
  exact ⟨site, rfl⟩

theorem waitFor_yields {seconds : Scalar} (h : (waitFor seconds).Yields s ok s' events) : s' = s := by
  obtain ⟨milliseconds, h⟩ := Routine.silent_ofExcept.of_bind h
  obtain ⟨later, hpure, rfl⟩ := Routine.pause_bind_yields h
  obtain ⟨rfl, rfl, rfl⟩ := Routine.yields_pure.1 hpure
  rfl

/-- A task that is neither a step nor a description acts on the site alone. -/
theorem execute_yields {task : Task} (hscreen : task.isScreen = false)
    (hdescription : ∀ text, task ≠ .description text)
    (h : (engine.execute task).Yields s ok s' events) : ∃ site, s' = { s with site } := by
  cases task with
  | screen task => cases hscreen
  | description text => exact absurd rfl (hdescription text)
  | wait seconds => exact ⟨s.site, waitFor_yields h⟩
  | foreign what => exact absurd h Routine.yields_fail
  | _ => exact settle_yields h

/-! ## Every run has a history -/

theorem repeating_of_yields {task : StepTask} {rounds done : Nat}
    (h : (engine.repeatStep task rounds done).Yields s ok s' events) :
    ∃ history, engine.Repeating task rounds s ok s' history ∧ events = history.events := by
  -- by the rounds that are left; how many there were before only shows in messages
  induction rounds generalizing done s events with
  | zero =>
    rw [repeatStep, yields_say_bind, Routine.yields_pure] at h
    obtain ⟨rfl, rfl, rfl⟩ := h
    exact ⟨[], .exhausted _, rfl⟩
  | succ rounds ih =>
    rw [repeatStep, Routine.yields_bind] at h
    obtain ⟨response?, s₁, first, later, hstep, h, rfl⟩ := h
    obtain ⟨history, hprocessing, rfl⟩ := processing_of_yields hstep
    cases response? with
    | none =>
      obtain ⟨rfl, rfl, rfl⟩ := Routine.yields_pure.1 h
      exact ⟨history, .refused hprocessing, List.append_nil _⟩
    | some response =>
      simp only at h
      cases hstop : hasStop (response.actions.getD []) with
      | true =>
        rw [hstop, if_pos rfl, yields_say_bind, Routine.yields_pure] at h
        obtain ⟨rfl, rfl, rfl⟩ := h
        exact ⟨history, .stopped hprocessing hstop, List.append_nil _⟩
      | false =>
        rw [hstop, if_neg Bool.false_ne_true] at h
        obtain ⟨later, hagain, rfl⟩ := ih h
        exact ⟨history ++ later, .again hprocessing hstop hagain, History.events_append.symm⟩

theorem executing_of_yields {task : Task} (h : (engine.execute task).Yields s ok s' events) :
    ∃ history, engine.Executing task s ok s' history ∧ events = history.events := by
  cases task with
  | description text =>
    rw [execute, Session.yields_changeContext_bind, Routine.yields_pure] at h
    obtain ⟨rfl, rfl, rfl⟩ := h
    exact ⟨_, .description text s, rfl⟩
  | screen task =>
    rw [execute, executeStep] at h
    split at h
    · next hkind =>
      obtain ⟨history, hrepeating, rfl⟩ := repeating_of_yields h
      exact ⟨history, .repeating hkind hrepeating, rfl⟩
    · next hkind =>
      rw [Routine.yields_bind] at h
      obtain ⟨response, s₁, first, later, hstep, h, rfl⟩ := h
      obtain ⟨history, hprocessing, rfl⟩ := processing_of_yields hstep
      obtain ⟨rfl, rfl, rfl⟩ := Routine.yields_pure.1 h
      exact ⟨history, .once hkind hprocessing, List.append_nil _⟩
  | _ =>
    refine ⟨_, .other rfl ?_ h, (History.events_ofEvents _).symm⟩
    intro text htask
    cases htask

theorem following_of_chain {tasks : List Task} (h : engine.Chain tasks s s' events) :
    ∃ history, engine.Following tasks s s' history ∧ events = history.events := by
  induction h with
  | nil s => exact ⟨[], .nil s, rfl⟩
  | cons hfirst _ ih =>
    obtain ⟨history, hexecuting, rfl⟩ := executing_of_yields hfirst
    obtain ⟨later, hfollowing, rfl⟩ := ih
    exact ⟨_, .cons hexecuting hfollowing, by simp⟩

theorem running_of_course {tasks : List Task} (h : engine.Course tasks script s ok s' events) :
    ∃ history, engine.Running tasks script s ok s' history ∧ events = history.events := by
  cases h with
  | absent hasking => exact ⟨_, .absent hasking, (History.events_ofEvents _).symm⟩
  | failed hasking htasks hchain hfails =>
    obtain ⟨history, hfollowing, rfl⟩ := following_of_chain hchain
    obtain ⟨last, hexecuting, rfl⟩ := executing_of_yields hfails
    exact ⟨_, .failed hasking htasks hfollowing hexecuting, by simp⟩
  | finished hasking hchain hsum =>
    obtain ⟨history, hfollowing, rfl⟩ := following_of_chain hchain
    exact ⟨_, .finished hasking hfollowing hsum, by simp [events_asked, hsum.eq_exchange]⟩

/-- Runs in a row have a history. -/
theorem succession_of_yields {runs : List (List Task × Text)} {oks : List Bool}
    (h : (engine.runEach runs).Yields s oks s' events) :
    ∃ history, engine.Succession runs s oks s' history ∧ events = history.events := by
  induction runs generalizing s oks events with
  | nil =>
    obtain ⟨rfl, rfl, rfl⟩ := Routine.yields_pure.1 h
    exact ⟨[], .nil _, rfl⟩
  | cons run runs ih =>
    rw [runEach, Routine.yields_bind] at h
    obtain ⟨ok, s₁, e₁, l₁, hrun, h, rfl⟩ := h
    rw [Routine.yields_bind] at h
    obtain ⟨oks, s₂, e₂, l₂, hruns, h, rfl⟩ := h
    obtain ⟨rfl, rfl, rfl⟩ := Routine.yields_pure.1 h
    obtain ⟨history, hrunning, rfl⟩ := running_of_course (course_of_run hrun)
    obtain ⟨later, hsuccession, rfl⟩ := ih hruns
    exact ⟨_, .cons hrunning hsuccession, by simp⟩

/-! ## What the histories tell -/

theorem Repeating.recounts {task : StepTask} {rounds : Nat}
    (h : engine.Repeating task rounds s ok s' history) : history.Recounts s s' := by
  induction h with
  | exhausted s => exact History.recounts_nil rfl
  | refused hprocessing => exact hprocessing.recounts
  | stopped hprocessing hstop => exact hprocessing.recounts
  | again hprocessing hstop _ ih => exact hprocessing.recounts.append ih

theorem Executing.recounts {task : Task} (h : engine.Executing task s ok s' history) :
    history.Recounts s s' := by
  cases h with
  | description text s => exact History.recounts_moment rfl trivial
  | repeating hkind hrepeating => exact hrepeating.recounts
  | once hkind hprocessing => exact hprocessing.recounts
  | other hscreen hdescription hyields =>
    obtain ⟨site, rfl⟩ := execute_yields hscreen hdescription hyields
    exact History.recounts_ofEvents rfl

theorem Following.recounts {tasks : List Task} (h : engine.Following tasks s s' history) :
    history.Recounts s s' := by
  induction h with
  | nil s => exact History.recounts_nil rfl
  | cons hexecuting _ ih =>
    exact (hexecuting.recounts.append (History.recounts_ofEvents rfl)).append ih

theorem Running.recounts {tasks : List Task} (h : engine.Running tasks script s ok s' history) :
    history.Recounts s s' := by
  cases h with
  | absent hasking => exact History.recounts_ofEvents rfl
  | failed hasking htasks hfollowing hexecuting =>
    refine .append (.append (History.recounts_ofEvents ?_) hfollowing.recounts) hexecuting.recounts
    rfl
  | finished hasking hfollowing hsum =>
    refine .append (.append (History.recounts_ofEvents ?_) hfollowing.recounts)
      (History.recounts_asked ?_ fun _ _ _ => ?_) <;> rfl

theorem Succession.recounts {runs : List (List Task × Text)} {oks : List Bool}
    (h : engine.Succession runs s oks s' history) : history.Recounts s s' := by
  induction h with
  | nil s => exact History.recounts_nil rfl
  | cons hrunning _ ih => exact hrunning.recounts.append ih

/-! ## How the requests are linked -/

theorem Repeating.links {task : StepTask} {rounds : Nat}
    (h : engine.Repeating task rounds s ok s' history) : history.Links engine.service s s' := by
  induction h with
  | exhausted s => exact History.links_of_requests_nil rfl rfl rfl
  | refused hprocessing => exact hprocessing.links
  | stopped hprocessing hstop => exact hprocessing.links
  | again hprocessing hstop _ ih => exact hprocessing.links.append ih

theorem Executing.links {task : Task} (h : engine.Executing task s ok s' history) :
    history.Links engine.service s s' := by
  cases h with
  | description text s => exact History.links_of_requests_nil rfl rfl rfl
  | repeating hkind hrepeating => exact hrepeating.links
  | once hkind hprocessing => exact hprocessing.links
  | other hscreen hdescription hyields =>
    obtain ⟨site, rfl⟩ := execute_yields hscreen hdescription hyields
    exact History.links_ofEvents rfl rfl

theorem Following.links {tasks : List Task} (h : engine.Following tasks s s' history) :
    history.Links engine.service s s' := by
  induction h with
  | nil s => exact History.links_of_requests_nil rfl rfl rfl
  | cons hexecuting _ ih =>
    exact (hexecuting.links.append (History.links_ofEvents rfl rfl)).append ih

/-- The request for a summary leaves the last response as it is. -/
theorem links_summary {last : List Event} (h : engine.SumsUp script s last) :
    History.Links engine.service (Moment.asked engine.service (.summary script s.context.joined)) s
      { s with sent := s.sent + last.length } := by
  refine History.links_asked ?_ rfl fun step heq => ?_
  · rw [← h.eq_exchange]
  · cases heq

theorem Running.links {tasks : List Task} (h : engine.Running tasks script s ok s' history) :
    history.Links engine.service s s' := by
  cases h with
  | absent hasking => exact History.links_ofEvents rfl rfl
  | failed hasking htasks hfollowing hexecuting =>
    refine .append (.append (History.links_ofEvents ?_ ?_) hfollowing.links) hexecuting.links <;> rfl
  | finished hasking hfollowing hsum =>
    refine .append (.append (History.links_ofEvents ?_ ?_) hfollowing.links) (links_summary hsum) <;> rfl

theorem Succession.links {runs : List (List Task × Text)} {oks : List Bool}
    (h : engine.Succession runs s oks s' history) : history.Links engine.service s s' := by
  induction h with
  | nil s => exact History.links_of_requests_nil rfl rfl rfl
  | cons hrunning _ ih => exact hrunning.links.append ih

/-! ## What the requests say -/

/-- **Requests remember.** Whatever runs follow one another, they have a history, and what a request says
about the run is told by the history before it: what was seen is the last description, or else what there
was at first, and line by line behind it what the accepted responses since then have added; the description
is the last one, or else the one at first. -/
theorem requests_remember {runs : List (List Task × Text)} {oks : List Bool}
    (h : (engine.runEach runs s).result = .ok oks) :
    ∃ history, engine.Succession runs s oks (engine.runEach runs s).state history ∧
      (engine.runEach runs s).trace = history.events ∧
      (∀ before after url apiKey clientKey request,
        history = before ++ .requested url apiKey clientKey (.step request) :: after →
        request.context = ['\n'].intercalate (History.seen s.context.seen before) ∧
          request.description = History.description s.context.description before) ∧
      ∀ before after url apiKey clientKey script context,
        history = before ++ .requested url apiKey clientKey (.summary script context) :: after →
        context = ['\n'].intercalate (History.seen s.context.seen before) := by
  obtain ⟨history, hsuccession, htrace⟩ := succession_of_yields (Routine.yields_of_result h)
  refine ⟨history, hsuccession, htrace, ?_, ?_⟩
  · rintro before after url apiKey clientKey request rfl
    obtain ⟨hcontext, hdescription, -⟩ := hsuccession.recounts.candid.of_mem
    rw [hcontext, hdescription, RunContext.joined, History.seen_leave, History.description_leave]
    exact ⟨rfl, rfl⟩
  · rintro before after url apiKey clientKey script context rfl
    have hcontext := hsuccession.recounts.candid.of_mem
    rw [Moment.Candid, RunContext.joined, History.seen_leave] at hcontext
    exact hcontext

end Engine

namespace Rehearsal

/-- An engine whose device takes a screenshot whenever it is asked to, and whose service has seen something
at first and does not know what to do afterwards. -/
def shortsighted : Engine (List DeviceCall) :=
  engine ⟨fun _ _ => true, fun _ _ => some (.taken (.octets []) (.real .one)), { names := ["a".toList] }⟩
    "https://v/".toList fun sent => .answered 200 [] (Utf8.encode
      (if sent = 0 then "\x7b\"actions\":[],\"context\":\"x\"\x7d".toList else "\x7b\x7d".toList))

/-- A run with a description and a step, and another one with a step only. -/
def twoRuns : List (List Task × Text) :=
  [([.description "d".toList, .screen { step := ⟨"A".toList, [], [], false⟩ }], []),
    ([.screen { step := ⟨"B".toList, [], [], true⟩ }], [])]

end Rehearsal

namespace Engine

/-- The last request of two runs remembers the description and the accepted response of the first one. -/
theorem requests_remember_of_two_runs :
    (Rehearsal.shortsighted.runEach Rehearsal.twoRuns Rehearsal.start).result = .ok [true, false] ∧
      (∃ history, (Rehearsal.shortsighted.runEach Rehearsal.twoRuns Rehearsal.start).trace =
          History.events history ∧
        ∀ before after url apiKey clientKey request,
          history = before ++ .requested url apiKey clientKey (.step request) :: after →
          request.context = ['\n'].intercalate (History.seen [] before) ∧
            request.description = History.description [] before) ∧
      (Rehearsal.shortsighted.runEach Rehearsal.twoRuns Rehearsal.start).trace.getLast? =
        some (.posted "https://v/".toList "k".toList "c".toList (.step {
          image := .file (.octets []), stepName := "B".toList, description := "d".toList,
          context := "d\nx".toList, isLast := true })) := by
  have h : (Rehearsal.shortsighted.runEach Rehearsal.twoRuns Rehearsal.start).result =
      .ok [true, false] := Routine.result_of_toOption (by decide +kernel)
  obtain ⟨history, -, htrace, hsteps, -⟩ := requests_remember h
  exact ⟨h, ⟨history, htrace, hsteps⟩, by decide +kernel⟩

/-! ## Which response the requests name -/

variable {δ : Type} {engine : Engine δ} {s : Session δ}

/-- **Requests name the last response.** Whatever runs follow one another, every request for a step names
the response that the service has given last: the one to the latest request before it that has a response
at all, whether it was accepted or rejected, or else the response known at first. Requests that fail have
no response, and neither has a request for a summary. -/
theorem requests_name_last_response {runs : List (List Task × Text)} {oks : List Bool}
    (h : (engine.runEach runs s).result = .ok oks) :
    ∃ history, engine.Succession runs s oks (engine.runEach runs s).state history ∧
      (engine.runEach runs s).trace = history.events ∧
      ∀ before after url apiKey clientKey request,
        history = before ++ .requested url apiKey clientKey (.step request) :: after →
        request.previous = StepResponse.lastIdentity s.context.previous
          (engine.service.responses s.sent (History.requests before)) := by
  obtain ⟨history, hsuccession, htrace⟩ := succession_of_yields (Routine.yields_of_result h)
  exact ⟨history, hsuccession, htrace, hsuccession.links.names⟩

end Engine

namespace Rehearsal

/-- An engine whose device takes a screenshot whenever it is asked to, and whose service gives a response
with an identity, refuses the next request, and gives responses without actions or identity afterwards. -/
def forgetful : Engine (List DeviceCall) :=
  engine ⟨fun _ _ => true, fun _ _ => some (.taken (.octets []) (.real .one)), { names := ["a".toList] }⟩
    "https://v/".toList fun sent =>
      if sent = 1 then .answered 500 [] []
      else .answered 200 [] (Utf8.encode
        (if sent = 0 then "\x7b\"actions\":[],\"request_id\":\"r\"\x7d".toList
          else "\x7b\x7d".toList))

/-- A run with two steps and a description between them, and two runs with one step each. -/
def threeRuns : List (List Task × Text) :=
  [([.screen { step := ⟨"A".toList, [], [], false⟩ }, .description "d".toList,
      .screen { step := ⟨"B".toList, [], [], true⟩ }], []),
    ([.screen { step := ⟨"C".toList, [], [], true⟩ }], []),
    ([.screen { step := ⟨"D".toList, [], [], true⟩ }], [])]

/-- The identity that an event names, if it is a request for a step. -/
def named? : Event → Option (Option Text)
  | .posted _ _ _ (.step request) => some request.previous
  | _ => none

end Rehearsal

namespace Engine

/-- The response to the first request is named until the third one has a response without an identity; the
refusal of the second request, with which the first run ends, does not matter. -/
theorem requests_name_last_response_of_three_runs :
    (Rehearsal.forgetful.runEach Rehearsal.threeRuns Rehearsal.start).result =
        .ok [false, false, false] ∧
      (∃ history, (Rehearsal.forgetful.runEach Rehearsal.threeRuns Rehearsal.start).trace =
          History.events history ∧
        ∀ before after url apiKey clientKey request,
          history = before ++ .requested url apiKey clientKey (.step request) :: after →
          request.previous = StepResponse.lastIdentity none
            (Rehearsal.forgetful.service.responses 0 (History.requests before))) ∧
      (Rehearsal.forgetful.runEach Rehearsal.threeRuns Rehearsal.start).trace.filterMap
          Rehearsal.named? = [none, some "r".toList, some "r".toList, none] := by
  have h : (Rehearsal.forgetful.runEach Rehearsal.threeRuns Rehearsal.start).result =
      .ok [false, false, false] := Routine.result_of_toOption (by decide +kernel)
  obtain ⟨history, -, htrace, hnames⟩ := requests_name_last_response h
  exact ⟨h, ⟨history, htrace, hnames⟩, by decide +kernel⟩

end Engine

end ScreenScript
