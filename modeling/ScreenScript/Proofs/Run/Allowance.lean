import Mathlib.Algebra.GroupWithZero.Nat
import ScreenScript.Proofs.Device.Offline
import ScreenScript.Proofs.Run.LastStep
import ScreenScript.Proofs.Run.Repetition

/-!
# How many requests a run may send

A repeating step is processed up to the first time that it has no result or that the service asks to stop,
and no more often than it may be. So the tasks of a script say in advance how many requests a run sends at
most. Each request meets the reply with its own number, and none is sent behind one that was in vain.

* `VisionService.Enquiry`, `Engine.processStep_enquires` — what is requested when a step is processed once
* `Engine.Repetition`, `Engine.repetition_of_yields` — how often a repeating step is processed
* `Task.allowance`, `Engine.Spends` — the requests of a task, and those of several tasks in a row
* `Engine.requests_within_allowance` — the requests of a run
-/

namespace ScreenScript

/-! ## One request -/

namespace VisionService

/-- What is requested when a step is processed once: either nothing, and then there is no result, or the
result is the response with the number of the request if that is accepted. -/
inductive Enquiry (service : VisionService) (sent : Nat) :
    Option StepResponse → List VisionRequest → Prop
  | unsent : Enquiry service sent none []
  | sent (request : StepRequest) :
    Enquiry service sent ((service.response? sent (.step request)).filter StepResponse.isAccepted)
      [.step request]

/-- None of these requests was in vain: each has met the reply with its own number, the first one that with
the number `sent`, and all of the responses were accepted. -/
def Heeded (service : VisionService) (sent : Nat) (requests : List VisionRequest) : Prop :=
  ∀ place request, requests[place]? = some request →
    ∃ response, service.response? (sent + place) request = some response ∧ response.isAccepted = true

variable {service : VisionService} {sent : Nat} {xs ys requests : List VisionRequest}
  {result : Option StepResponse}

theorem heeded_nil : service.Heeded sent [] := nofun

theorem Heeded.append (h : service.Heeded sent xs) (h' : service.Heeded (sent + xs.length) ys) :
    service.Heeded sent (xs ++ ys) := by
  intro place request hrequest
  rw [List.getElem?_append] at hrequest
  split at hrequest
  · exact h place request hrequest
  · next hplace =>
    have hsum : sent + place = sent + xs.length + (place - xs.length) := by omega
    rw [hsum]
    exact h' _ request hrequest

theorem Heeded.dropLast (h : service.Heeded sent requests) : service.Heeded sent requests.dropLast := by
  intro place request hrequest
  rw [List.getElem?_dropLast] at hrequest
  split at hrequest
  · exact h place request hrequest
  · cases hrequest

/-- Requests that are sent one after the other, from one number to the next: there are no more of them than
allowed, and none but the last one can have been in vain. -/
structure Spends (service : VisionService) (limit sent sent' : Nat) (requests : List VisionRequest) :
    Prop where
  /-- every request has the next number -/
  counted : sent' = sent + requests.length
  /-- there are no more than allowed -/
  within : requests.length ≤ limit
  /-- behind a request that was in vain, nothing is requested -/
  heeded : service.Heeded sent requests.dropLast

theorem spends_nil (limit : Nat) : service.Spends limit sent sent [] :=
  ⟨rfl, Nat.zero_le limit, heeded_nil⟩

theorem spends_singleton (request : VisionRequest) : service.Spends 1 sent (sent + 1) [request] :=
  ⟨rfl, Nat.le_refl 1, heeded_nil⟩

theorem Spends.mono {limit limit' sent' : Nat} (h : service.Spends limit sent sent' requests)
    (hle : limit ≤ limit') : service.Spends limit' sent sent' requests :=
  ⟨h.counted, h.within.trans hle, h.heeded⟩

/-- More requests behind some of which none was in vain. -/
theorem Spends.append {limit limit' sent₁ sent' : Nat} (h : service.Spends limit sent sent₁ xs)
    (hheeded : service.Heeded sent xs) (h' : service.Spends limit' sent₁ sent' ys) :
    service.Spends (limit + limit') sent sent' (xs ++ ys) := by
  obtain ⟨rfl, hwithin, -⟩ := h
  obtain ⟨rfl, hwithin', hheeded'⟩ := h'
  refine ⟨?_, ?_, ?_⟩
  · rw [List.length_append, Nat.add_assoc]
  · rw [List.length_append]
    exact Nat.add_le_add hwithin hwithin'
  · rw [List.dropLast_append]
    split
    · exact hheeded.dropLast
    · exact hheeded.append hheeded'

theorem Enquiry.spends (h : service.Enquiry sent result requests) :
    service.Spends 1 sent (sent + requests.length) requests := by
  cases h with
  | unsent => exact spends_nil 1
  | sent request => exact spends_singleton _

/-- A request with a result was not in vain. -/
theorem Enquiry.heeded (h : service.Enquiry sent result requests) (hresult : result ≠ none) :
    service.Heeded sent requests := by
  cases h with
  | unsent => exact heeded_nil
  | sent request =>
    obtain ⟨response, hresponse⟩ := Option.ne_none_iff_exists'.1 hresult
    intro place other hother
    cases place with
    | zero =>
      obtain rfl := Option.some.inj hother
      exact ⟨response, Option.filter_eq_some_iff.1 hresponse⟩
    | succ place => cases hother

end VisionService

namespace History

variable {history later : History} {events : List Event}

/-- The requests that happen outside are those that the history tells. -/
def TellsRequests (history : History) : Prop := requestsOf history.events = history.requests

theorem tellsRequests_ofEvents (h : requestsOf events = []) : TellsRequests (.ofEvents events) := by
  rw [TellsRequests, events_ofEvents, requests_ofEvents, h]

/-- A moment at which nothing happens outside. -/
theorem tellsRequests_moment {moment : Moment} (hevents : moment.events = [])
    (hrequest : moment.request? = none) : TellsRequests [moment] := by
  rw [TellsRequests, events_cons, hevents, requests, List.filterMap_cons, hrequest]
  rfl

theorem tellsRequests_asked (service : VisionService) (request : VisionRequest) :
    TellsRequests (Moment.asked service request) := by
  rw [TellsRequests, Moment.asked]
  cases service.destination request <;> rfl

theorem TellsRequests.append (h : history.TellsRequests) (h' : later.TellsRequests) :
    (history ++ later).TellsRequests := by
  rw [TellsRequests, events_append, requestsOf_append, requests_append, h, h']

end History

namespace Engine

variable {δ : Type} {engine : Engine δ} {s s' : Session δ}

/-- What sending a screenshot requests. -/
theorem Consulting.enquires {task : StepTask} {image : EncodedImage} {result : Option StepResponse}
    {history : History} (h : engine.Consulting task image s result s' history) :
    engine.service.Enquiry s.sent result history.requests := by
  -- a response that is accepted or rejected is the response to the request
  have hsent {response : Option StepResponse}
      (hresponse : engine.service.response? s.sent (.step (requestFor task s.context image)) = response)
      (hresult : result = response.filter StepResponse.isAccepted) :
      engine.service.Enquiry s.sent result [.step (requestFor task s.context image)] := by
    rw [hresult, ← hresponse]
    exact .sent _
  cases h with
  | unanswered hfault hcaught =>
    cases hd : engine.service.destination (.step (requestFor task s.context image)) with
    | error fault =>
      rw [Moment.asked, hd]
      exact .unsent
    | ok address =>
      rw [VisionService.requests_asked_of_ok hd]
      exact hsent (VisionService.response?_of_processStep_error hfault) rfl
  | rejected hresponse hrejected =>
    obtain ⟨address, hd⟩ := VisionService.destination_of_processStep hresponse
    rw [History.requests_append, VisionService.requests_asked_of_ok hd]
    refine hsent (VisionService.response?_of_processStep hresponse) ?_
    rw [Option.filter_some, hrejected, if_neg Bool.false_ne_true]
  | accepted hresponse haccepted hactions hacting =>
    obtain ⟨address, hd⟩ := VisionService.destination_of_processStep hresponse
    rw [History.requests_append, History.requests_append, VisionService.requests_asked_of_ok hd,
      History.requests_ofEvents]
    refine hsent (VisionService.response?_of_processStep hresponse) ?_
    rw [Option.filter_some, haccepted, if_pos rfl]

/-- What is requested when a step is processed once. -/
theorem Processing.enquires {task : StepTask} {result : Option StepResponse} {history : History}
    (h : engine.Processing task s result s' history) :
    engine.service.Enquiry s.sent result history.requests := by
  cases h with
  | unseen hshot =>
    rw [History.requests_ofEvents]
    exact .unsent
  | unreadable hshot hread =>
    simp only [History.requests_append, History.requests_ofEvents]
    exact .unsent
  | sent hshot hread hconsulting =>
    simp only [History.requests_append, History.requests_ofEvents]
    exact hconsulting.enquires

/-- Behind a device that uses no network, nothing else is requested. -/
theorem Consulting.tellsRequests (hoffline : engine.device.Offline) {task : StepTask}
    {image : EncodedImage} {result : Option StepResponse} {history : History}
    (h : engine.Consulting task image s result s' history) : history.TellsRequests := by
  have hasked (request : VisionRequest) := History.tellsRequests_asked engine.service request
  cases h with
  | unanswered hfault hcaught => exact hasked _
  | rejected hresponse hrejected => exact (hasked _).append (History.tellsRequests_moment rfl rfl)
  | accepted hresponse haccepted hactions hacting =>
    have hevents := (Interpreter.acting_of_yields hacting).requestsOf_eq_nil hoffline
    refine ((hasked _).append (History.tellsRequests_moment rfl rfl)).append ?_
    exact History.tellsRequests_ofEvents hevents

/-- The same for all of a step. -/
theorem Processing.tellsRequests (hoffline : engine.device.Offline) {task : StepTask}
    {result : Option StepResponse} {history : History} (h : engine.Processing task s result s' history) :
    history.TellsRequests := by
  have hreading {path : Path} {disk disk' : Disk} {image : Option EncodedImage} {reading : List Event}
      (hread : (Picture.encodeFile path).Yields disk image disk' reading) :
      History.TellsRequests (.ofEvents reading) :=
    History.tellsRequests_ofEvents
      (Routine.Offline.requestsOf_eq_nil (Picture.silent_encodeFile path).emits hread)
  have hshooting {site : Site δ} {screenshot : Option Screenshot} {shooting : List Event}
      (hshot : (engine.device.screenshot task.step).Yields s.site screenshot site shooting) :
      History.TellsRequests (.ofEvents shooting) :=
    History.tellsRequests_ofEvents ((hoffline.screenshot task.step).requestsOf_eq_nil hshot)
  cases h with
  | unseen hshot => exact hshooting hshot
  | unreadable hshot hread =>
    exact ((hshooting hshot).append (History.tellsRequests_moment rfl rfl)).append (hreading hread)
  | sent hshot hread hconsulting =>
    refine (((hshooting hshot).append (History.tellsRequests_moment rfl rfl)).append
      (hreading hread)).append ?_
    exact hconsulting.tellsRequests hoffline

/-- What is requested when a step is processed once, and how it is counted. -/
theorem processStep_enquires (hoffline : engine.device.Offline) {task : StepTask}
    {result : Option StepResponse} {events : List Event}
    (h : (engine.processStep task).Yields s result s' events) :
    engine.service.Enquiry s.sent result (requestsOf events) ∧
      s'.sent = s.sent + (requestsOf events).length := by
  obtain ⟨history, hprocessing, rfl⟩ := processing_of_yields h
  rw [hprocessing.tellsRequests hoffline]
  exact ⟨hprocessing.enquires, hprocessing.links.sent⟩

end Engine

/-! ## The requests of a task -/

/-- How many requests a step may send. -/
def StepTask.allowance (task : StepTask) : Nat :=
  match task.kind with
  | .repeating => task.maxRepeats.toNat
  | .normal | .creative => 1

theorem StepTask.allowance_of_once {task : StepTask} (h : task.kind ≠ .repeating) : task.allowance = 1 := by
  rw [allowance]
  cases hkind : task.kind with
  | repeating => exact absurd hkind h
  | normal | creative => rfl

/-- How many requests a task may send. -/
def Task.allowance : Task → Nat
  | .screen task => task.allowance
  | _ => 0

namespace Engine

variable {δ : Type} {engine : Engine δ} {s s' : Session δ}

/-- What the rounds of a repeating step request. If it goes well, none of it is in vain. -/
theorem repeatStep_spends (hoffline : engine.device.Offline) {task : StepTask} {rounds done : Nat}
    {ok : Bool} {events : List Event}
    (h : (engine.repeatStep task rounds done).Yields s ok s' events) :
    engine.service.Spends rounds s.sent s'.sent (requestsOf events) ∧
      (ok = true → engine.service.Heeded s.sent (requestsOf events)) := by
  induction rounds generalizing done s events with
  | zero =>
    rw [repeatStep, yields_say_bind, Routine.yields_pure] at h
    obtain ⟨rfl, rfl, rfl⟩ := h
    exact ⟨VisionService.spends_nil 0, fun hok => absurd hok Bool.false_ne_true⟩
  | succ rounds ih =>
    obtain ⟨result, ⟨hstep, hends, rfl⟩ | ⟨hends, s₁, first, later, hstep, hrest, rfl⟩⟩ :=
      repeatStep_succ_yields h
    · obtain ⟨henquiry, hsent⟩ := processStep_enquires hoffline hstep
      rw [hsent]
      refine ⟨henquiry.spends.mono (Nat.succ_le_succ (Nat.zero_le rounds)), fun hok => ?_⟩
      exact henquiry.heeded (Option.isSome_iff_ne_none.1 hok)
    · obtain ⟨henquiry, hsent⟩ := processStep_enquires hoffline hstep
      obtain ⟨hspends, hwell⟩ := ih hrest
      have hheeded : engine.service.Heeded s.sent (requestsOf first) := by
        refine henquiry.heeded ?_
        rintro rfl
        exact hends StepResponse.ends_none
      rw [requestsOf_append, Nat.add_comm]
      rw [hsent] at hspends hwell
      exact ⟨henquiry.spends.append hheeded hspends, fun hok => hheeded.append (hwell hok)⟩

/-- A task that is no step uses no network. -/
theorem offline_execute (hoffline : engine.device.Offline) {task : Task} (h : task.isScreen = false) :
    (engine.execute task).Offline := by
  have hsettle {m : Routine (Site δ) Bool} (hm : m.Offline) (delay : Int) :
      (settle m delay).Offline :=
    Routine.emits_bind (Routine.emits_within hm) fun _ =>
      Routine.emits_bind (Routine.offline_pause _) fun _ => Routine.silent_pure.emits
  cases task with
  | screen task => cases h
  | description text => exact Routine.emits_bind (fun _ _ => nofun) fun _ => Routine.silent_pure.emits
  | install => exact hsettle hoffline.install _
  | uninstall package => exact hsettle (hoffline.uninstall package) _
  | clearData package => exact hsettle (hoffline.clearData package) _
  | openApp package => exact hsettle (hoffline.openApp package) _
  | back => exact hsettle hoffline.back _
  | home => exact hsettle hoffline.home _
  | recentApps => exact hsettle hoffline.recent _
  | wait seconds =>
    exact Routine.emits_bind Routine.silent_ofExcept.emits fun _ =>
      Routine.emits_bind (Routine.offline_pause _) fun _ => Routine.silent_pure.emits
  | foreign what => exact Routine.silent_fail.emits

/-- A task that is no step leaves the number of requests as it is. -/
theorem sent_of_execute {task : Task} {ok : Bool} {events : List Event} (h : task.isScreen = false)
    (hyields : (engine.execute task).Yields s ok s' events) : s'.sent = s.sent := by
  by_cases hdescription : ∃ text, task = .description text
  · obtain ⟨text, rfl⟩ := hdescription
    rw [execute, Session.yields_changeContext_bind, Routine.yields_pure] at hyields
    rw [hyields.2.1]
  · obtain ⟨site, rfl⟩ := execute_yields h (fun text heq => hdescription ⟨text, heq⟩) hyields
    rfl

/-- What a task requests. If it goes well, none of it is in vain. -/
theorem execute_spends (hoffline : engine.device.Offline) {task : Task} {ok : Bool}
    {events : List Event} (h : (engine.execute task).Yields s ok s' events) :
    engine.service.Spends task.allowance s.sent s'.sent (requestsOf events) ∧
      (ok = true → engine.service.Heeded s.sent (requestsOf events)) := by
  cases hscreen : task.isScreen with
  | false =>
    rw [(offline_execute hoffline hscreen).requestsOf_eq_nil h, sent_of_execute hscreen h]
    exact ⟨VisionService.spends_nil _, fun _ => VisionService.heeded_nil⟩
  | true =>
    cases task with
    | screen task =>
      rw [execute, executeStep] at h
      split at h
      · next hkind =>
        rw [Task.allowance, StepTask.allowance, hkind]
        exact repeatStep_spends hoffline h
      · next hkind =>
        rw [Routine.yields_bind] at h
        obtain ⟨result, s₁, first, later, hstep, h, rfl⟩ := h
        obtain ⟨rfl, rfl, rfl⟩ := Routine.yields_pure.1 h
        obtain ⟨henquiry, hsent⟩ := processStep_enquires hoffline hstep
        rw [Task.allowance, StepTask.allowance_of_once hkind, List.append_nil, hsent]
        exact ⟨henquiry.spends, fun hok => henquiry.heeded (Option.isSome_iff_ne_none.1 hok)⟩
    | _ => cases hscreen

/-! ## The requests of a run -/

/-- What tasks that go well request: none of it is in vain. -/
theorem Chain.spends (hoffline : engine.device.Offline) {tasks : List Task} {events : List Event}
    (h : engine.Chain tasks s s' events) :
    engine.service.Spends (tasks.map Task.allowance).sum s.sent s'.sent (requestsOf events) ∧
      engine.service.Heeded s.sent (requestsOf events) := by
  induction h with
  | nil s => exact ⟨VisionService.spends_nil _, VisionService.heeded_nil⟩
  | cons hfirst _ ih =>
    obtain ⟨hspends, hheeded⟩ := execute_spends hoffline hfirst
    obtain ⟨hlater, hrest⟩ := ih
    rw [requestsOf_append, requestsOf_append, taskPause, requestsOf_pauseEvents, List.append_nil,
      List.map_cons, List.sum_cons]
    rw [hspends.counted] at hrest
    exact ⟨hspends.append (hheeded rfl) hlater, (hheeded rfl).append hrest⟩

/-- What a run requests. -/
theorem Course.spends (hoffline : engine.device.Offline) {tasks : List Task} {script : Text} {ok : Bool}
    {events : List Event} (h : engine.Course tasks script s ok s' events) :
    engine.service.Spends ((tasks.map Task.allowance).sum + 1) s.sent s'.sent (requestsOf events) := by
  have hconnected {connected : Bool} {site : Site δ} {asking : List Event}
      (hasking : engine.device.isConnected.Yields s.site connected site asking) :
      requestsOf asking = [] := hoffline.isConnected.requestsOf_eq_nil hasking
  cases h with
  | absent hasking =>
    rw [hconnected hasking]
    exact VisionService.spends_nil _
  | failed hasking htasks hchain hfails =>
    obtain ⟨hspends, hheeded⟩ := hchain.spends hoffline
    obtain ⟨hfailing, -⟩ := execute_spends hoffline hfails
    rw [requestsOf_append, requestsOf_append, hconnected hasking, List.nil_append, htasks,
      List.map_append, List.map_cons, List.sum_append, List.sum_cons]
    exact (hspends.append hheeded hfailing).mono (by omega)
  | @finished site s₁ asking all last hasking hchain hsum =>
    obtain ⟨hspends, hheeded⟩ := hchain.spends hoffline
    have hlast : engine.service.Spends 1 s₁.sent (s₁.sent + last.length) (requestsOf last) := by
      rw [SumsUp] at hsum
      split at hsum
      · rw [hsum]
        exact VisionService.spends_nil 1
      · obtain ⟨address, -, rfl⟩ := hsum
        exact VisionService.spends_singleton _
    rw [requestsOf_append, requestsOf_append, hconnected hasking, List.nil_append]
    exact hspends.append hheeded hlast

/-- **Requests are limited.** A repeating step is processed round by round: there is no round behind the
first one without a result or with a response that asks to stop, and without such a round there are as many
as the step may have. It goes well if the last response asks to stop, and then all its actions have been
carried out. A step that is processed once sends one request at most, whose reply is the one with the number
of the request, and tasks send no more requests than they may. So a run sends at most one request for each
step that is not repeating, one for each round that a repeating step may have, and one for the summary; each
of them meets the reply with its own number, and behind one that was in vain there is no other. -/
theorem requests_within_allowance (engine : Engine δ) (hoffline : engine.device.Offline) :
    (∀ bridge : Bridge, bridge.device.Offline) ∧
    (∀ task s ok, task.kind = .repeating → (engine.execute (.screen task) s).result = .ok ok →
      ∃ results, engine.Repetition task task.maxRepeats.toNat s ok (engine.execute (.screen task) s).state
        (engine.execute (.screen task) s).trace results) ∧
    (∀ task s result, (engine.processStep task s).result = .ok result →
      engine.service.Enquiry s.sent result (requestsOf (engine.processStep task s).trace) ∧
      (engine.processStep task s).state.sent =
        s.sent + (requestsOf (engine.processStep task s).trace).length) ∧
    (∀ task s ok, (engine.execute task s).result = .ok ok →
      engine.service.Spends task.allowance s.sent (engine.execute task s).state.sent
        (requestsOf (engine.execute task s).trace)) ∧
    ∀ tasks script s ok, (engine.run tasks script s).result = .ok ok →
      engine.Course tasks script s ok (engine.run tasks script s).state
        (engine.run tasks script s).trace ∧
      engine.service.Spends ((tasks.map Task.allowance).sum + 1) s.sent
        (engine.run tasks script s).state.sent (requestsOf (engine.run tasks script s).trace) := by
  refine ⟨Bridge.offline_device, ?_, ?_, ?_, ?_⟩
  · intro task s ok hkind h
    have hyields := Routine.yields_of_result h
    have hexecute : engine.execute (.screen task) =
        engine.repeatStep task task.maxRepeats.toNat 0 := by
      rw [execute, executeStep, hkind]
    rw [hexecute] at hyields ⊢
    exact repetition_of_yields hyields
  · intro task s result h
    exact processStep_enquires hoffline (Routine.yields_of_result h)
  · intro task s ok h
    exact (execute_spends hoffline (Routine.yields_of_result h)).1
  · intro tasks script s ok h
    have hcourse := course_of_run (Routine.yields_of_result h)
    exact ⟨hcourse, hcourse.spends hoffline⟩

end Engine

namespace Rehearsal

/-- An engine whose device does everything, and whose service asks to stop in its third response, with
something else behind it. -/
def persistent : Engine (List DeviceCall) :=
  engine ⟨fun _ _ => true, fun _ _ => some (.taken (.octets []) (.real .one)), { names := ["a".toList] }⟩
    "https://v/".toList fun sent => .answered 200 [] (Utf8.encode
      (if sent = 2 then "\x7b\"actions\":[\"please STOP\",\"home\"]\x7d".toList
        else "\x7b\"actions\":[]\x7d".toList))

/-- A step that may be repeated three times. -/
def thrice : StepTask := { step := ⟨"A".toList, [], [], true⟩, kind := .repeating, maxRepeats := 3 }

/-- What becomes of a run with this step. -/
def lastChance : Outcome (Session (List DeviceCall)) Bool := persistent.run [.screen thrice] [] start

end Rehearsal

namespace Engine

/-- The service asks to stop in the very last round: the step goes well, the action behind the one to stop is
carried out, and there are three requests and the one for the summary. -/
theorem requests_within_allowance_of_last_chance :
    Rehearsal.persistent.device.Offline ∧ Rehearsal.lastChance.result = .ok true ∧
      Rehearsal.persistent.service.Spends 4 0 Rehearsal.lastChance.state.sent
        (requestsOf Rehearsal.lastChance.trace) ∧
      (∃ results, Rehearsal.persistent.Repetition Rehearsal.thrice 3 Rehearsal.start true
        (Rehearsal.persistent.execute (.screen Rehearsal.thrice) Rehearsal.start).state
        (Rehearsal.persistent.execute (.screen Rehearsal.thrice) Rehearsal.start).trace results) ∧
      (requestsOf Rehearsal.lastChance.trace).length = 4 ∧
      (.called .home) ∈ Rehearsal.lastChance.trace := by
  have hoffline : Rehearsal.persistent.device.Offline := Rehearsal.offline_device _
  have hrun : Rehearsal.lastChance.result = .ok true := Routine.result_of_toOption (by decide +kernel)
  have hstep : (Rehearsal.persistent.execute (.screen Rehearsal.thrice) Rehearsal.start).result =
      .ok true := Routine.result_of_toOption (by decide +kernel)
  obtain ⟨-, hrepetition, -, -, hspends⟩ := requests_within_allowance Rehearsal.persistent hoffline
  refine ⟨hoffline, hrun, (hspends _ _ _ _ hrun).2, hrepetition _ _ _ rfl hstep, ?_, ?_⟩
  · decide +kernel
  · decide +kernel

end Engine

end ScreenScript
