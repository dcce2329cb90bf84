import ScreenScript.Proofs.Picture.File
import ScreenScript.Proofs.Run.Course
import ScreenScript.Proofs.Run.Processing

/-!
# When a response is acted on

A step asks for one screenshot, and the service for at most one response to it. The response is accepted if
it says what to do and nothing has failed but what is marked as optional. Only then the device does anything
more, and only then the step has a result. What the context knows of a rejected response is its identity.

* `StepResponse.Accepted`, `VisionService.Responds` — what is accepted, and what a response is
* `Engine.Asking` — what becomes of a screenshot
* `Engine.Verdict` — what is done about a response, or about there being none
* `Engine.step_heeds_response` — a step does nothing else
-/

namespace ScreenScript

/-- The session behind a screenshot, if there is one: the context knows its factor. -/
def Session.captured {δ : Type} (s : Session δ) (site : Site δ) (screenshot : Option Screenshot) :
    Session δ :=
  { s with site, context.factor := (screenshot.map Screenshot.factor).getD s.context.factor }

/-! ## Responses -/

/-- The response says what to do, and every assertion that failed is marked as optional, in whatever letter
case. -/
structure StepResponse.Accepted (response : StepResponse) : Prop where
  listed : response.actions ≠ none
  optional : ∀ assertion ∈ response.failedAssertions.getD [], optionalMark <:+: assertion.lower

theorem StepResponse.isAccepted_iff {response : StepResponse} :
    response.isAccepted = true ↔ response.Accepted := by
  have hoptional : onlyOptional (response.failedAssertions.getD []) = true ↔
      ∀ assertion ∈ response.failedAssertions.getD [], optionalMark <:+: assertion.lower := by
    simp [onlyOptional, Text.contains_iff]
  rw [isAccepted, Bool.and_eq_true, hoptional, Option.isSome_iff_ne_none]
  exact ⟨fun h => ⟨h.1, h.2⟩, fun h => ⟨h.listed, h.optional⟩⟩

namespace VisionService

/-- A request for a step has this response: it is sent, the answer to it is taken, can be decoded and does not
refuse it, and the text of the answer is the response. -/
def Responds (service : VisionService) (sent : Nat) (request : StepRequest) (response : StepResponse) :
    Prop :=
  ∃ address answer text, service.destination (.step request) = .ok address ∧
    service.web.receive service.url (service.deliveries sent) = .ok answer ∧
    answer.text = .ok text ∧ answer.status < 400 ∧
    StepResponse.ofText service.validator text = .valid response

variable {service : VisionService} {sent : Nat} {request : StepRequest} {response : StepResponse}
  {fault : Fault}

/-- The text of a delivery is that of an answer which does not refuse the request. -/
theorem answerText_eq_ok {delivery : Delivery} {text : Text} :
    service.answerText delivery = .ok text ↔
      ∃ answer, service.web.receive service.url delivery = .ok answer ∧ answer.text = .ok text ∧
        answer.status < 400 := by
  have hrefusal : leastRefusal = 400 := rfl
  rw [answerText]
  cases service.web.receive service.url delivery with
  | error flaw => simp
  | ok answer =>
    dsimp only
    cases htext : answer.text with
    | error fault => simp [htext]
    | ok found =>
      by_cases hstatus : leastRefusal ≤ answer.status
      · have hlarge : ¬answer.status < 400 := by omega
        simp [hstatus, hlarge]
      · have hsmall : answer.status < 400 := by omega
        simp [hstatus, hsmall, htext]

theorem response?_eq_some :
    service.response? sent (.step request) = some response ↔ service.Responds sent request response := by
  rw [response?, Responds]
  cases service.destination (.step request) with
  | error fault => simp
  | ok address =>
    cases htext : service.answerText (service.deliveries sent) with
    | error fault =>
      have hnone (answer : WebAnswer) (text : Text)
          (hanswer : service.web.receive service.url (service.deliveries sent) = .ok answer)
          (hdecoded : answer.text = .ok text) : ¬answer.status < 400 := by
        intro hstatus
        rw [answerText_eq_ok.2 ⟨answer, hanswer, hdecoded, hstatus⟩] at htext
        cases htext
      simp only [reduceCtorEq, false_iff]
      rintro ⟨_, answer, text, -, hanswer, hdecoded, hstatus, -⟩
      exact hnone answer text hanswer hdecoded hstatus
    | ok text =>
      obtain ⟨answer, hanswer, hdecoded, hstatus⟩ := answerText_eq_ok.1 htext
      simp [hanswer, hdecoded, hstatus, Checked.value?_eq_some_iff]

theorem responds_of_processStep (h : (service.processStep request sent).result = .ok response) :
    service.Responds sent request response :=
  response?_eq_some.1 (response?_of_processStep h)

theorem not_responds_of_processStep (h : (service.processStep request sent).result = .error fault) :
    ¬service.Responds sent request response := by
  intro hresponds
  have hnone := response?_of_processStep_error h
  rw [response?_eq_some.2 hresponds] at hnone
  cases hnone

/-- If a request goes nowhere and the fault is one of the service, then there is no address. -/
theorem url_of_processStep {unsent : Fault} (hd : service.destination (.step request) = .error unsent)
    (h : (service.processStep request sent).result = .error fault)
    (hcaught : (Engine.serviceFault fault).isSome) : service.url = [] := by
  have hpost : (service.post (.step request) sent).result = .error unsent := by
    rw [post, hd]
    rfl
  rw [processStep, Routine.bind_of_error hpost] at h
  obtain rfl := Except.error.inj h
  cases unsent with
  | vision fault => exact url_of_destination hd
  | _ => cases hcaught

end VisionService

namespace Engine

variable {δ : Type} {engine : Engine δ} {task : StepTask} {s s' : Session δ}
  {result : Option StepResponse} {history : History}

/-! ## Asking for a response -/

/-- What becomes of a screenshot for a step: the response to it, if there is one, and the request that asks
for that, if it is sent. -/
inductive Asking (engine : Engine δ) (task : StepTask) (context : RunContext) (sent : Nat) (disk : Disk) :
    Option Screenshot → Option StepResponse → List Event → Prop
  /-- there is no screenshot -/
  | unseen : Asking engine task context sent disk none none []
  /-- its file cannot be read -/
  | unreadable {screenshot : Screenshot} :
    (Picture.encodeFile screenshot.path disk).result = .ok none →
    Asking engine task context sent disk (some screenshot) none []
  /-- the service has no address -/
  | unconfigured {screenshot : Screenshot} {image : EncodedImage} :
    (Picture.encodeFile screenshot.path disk).result = .ok (some image) → engine.service.url = [] →
    Asking engine task context sent disk (some screenshot) none []
  /-- the service is asked and does not respond -/
  | unanswered {screenshot : Screenshot} {image : EncodedImage} {address : Text} :
    (Picture.encodeFile screenshot.path disk).result = .ok (some image) →
    engine.service.destination (.step (requestFor task context image)) = .ok address →
    (∀ response, ¬engine.service.Responds sent (requestFor task context image) response) →
    Asking engine task context sent disk (some screenshot) none
      [.posted address engine.service.apiKey engine.service.clientKey
        (.step (requestFor task context image))]
  /-- the service is asked and responds -/
  | answered {screenshot : Screenshot} {image : EncodedImage} {address : Text}
    {response : StepResponse} :
    (Picture.encodeFile screenshot.path disk).result = .ok (some image) →
    engine.service.destination (.step (requestFor task context image)) = .ok address →
    engine.service.Responds sent (requestFor task context image) response →
    Asking engine task context sent disk (some screenshot) (some response)
      [.posted address engine.service.apiKey engine.service.clientKey
        (.step (requestFor task context image))]

/-- The request of a screenshot that can be read and whose service has no response. -/
theorem asking_of_unanswered {context : RunContext} {sent : Nat} {disk : Disk} {screenshot : Screenshot}
    {image : EncodedImage} {fault : Fault}
    (hread : (Picture.encodeFile screenshot.path disk).result = .ok (some image))
    (h : (engine.service.processStep (requestFor task context image) sent).result = .error fault)
    (hcaught : (serviceFault fault).isSome) :
    engine.Asking task context sent disk (some screenshot) none
      (engine.service.exchange (.step (requestFor task context image))) := by
  rw [VisionService.exchange]
  cases hd : engine.service.destination (.step (requestFor task context image)) with
  | error unsent => exact .unconfigured hread (VisionService.url_of_processStep hd h hcaught)
  | ok address =>
    exact .unanswered hread hd fun response => VisionService.not_responds_of_processStep h

/-- The request of a screenshot that can be read and whose service responds. -/
theorem asking_of_answered {context : RunContext} {sent : Nat} {disk : Disk} {screenshot : Screenshot}
    {image : EncodedImage} {response : StepResponse}
    (hread : (Picture.encodeFile screenshot.path disk).result = .ok (some image))
    (h : (engine.service.processStep (requestFor task context image) sent).result = .ok response) :
    engine.Asking task context sent disk (some screenshot) (some response)
      (engine.service.exchange (.step (requestFor task context image))) := by
  have hresponds := VisionService.responds_of_processStep h
  obtain ⟨address, answer, text, hd, -⟩ := id hresponds
  rw [VisionService.exchange, hd]
  exact .answered hread hd hresponds

/-! ## Heeding the response -/

/-- What is done about the response to a step, or about there being none: its result, the session that is
left, and what the device does. -/
structure Verdict (engine : Engine δ) (response : Option StepResponse) (s : Session δ)
    (result : Option StepResponse) (s' : Session δ) (acting : List Event) : Prop where
  /-- the result is the response if that is accepted, and nothing else -/
  returned : ∀ accepted, result = some accepted ↔ response = some accepted ∧ accepted.Accepted
  /-- without a result, the device does nothing -/
  idle : result = none → acting = [] ∧ s'.site = s.site
  /-- otherwise it does what the actions of the response ask for, and nothing else -/
  acted : ∀ accepted, result = some accepted → ∃ actions errors, accepted.actions = some actions ∧
    ((engine.interpreter s.context).performAll actions).Yields s.site errors s'.site acting
  /-- the last response is known from now on, and what an accepted one has seen is added -/
  context : s'.context =
    { factor := s.context.factor
      seen := s.context.seen ++ ((result.bind StepResponse.context).filter (· ≠ [])).toList
      previous := (response.map StepResponse.requestId).getD s.context.previous
      description := s.context.description }

/-- Without a response, nothing is done. -/
theorem verdict_none {acting : List Event} (hacting : acting = []) (hsite : s'.site = s.site)
    (hcontext : s'.context = s.context) : engine.Verdict none s none s' acting where
  returned accepted := by simp
  idle _ := ⟨hacting, hsite⟩
  acted := nofun
  context := by simp [hcontext]

/-- What a response adds to what was seen is its context, if that is not empty. -/
theorem contribution_eq {response : StepResponse} (h : response.isAccepted = true) :
    response.contribution = (response.context.filter (· ≠ [])).toList := by
  rw [StepResponse.contribution_of_accepted h]
  cases response.context with
  | none => rfl
  | some seen => cases seen <;> rfl

/-- What sending a screenshot does is to ask for a response, and to heed it. -/
theorem Consulting.heeds {image : EncodedImage} (h : engine.Consulting task image s result s' history)
    (screenshot : Screenshot)
    (hread : (Picture.encodeFile screenshot.path s.site.disk).result = .ok (some image)) :
    ∃ response asking acting,
      engine.Asking task s.context s.sent s.site.disk (some screenshot) response asking ∧
      history.events = asking ++ acting ∧ engine.Verdict response s result s' acting := by
  cases h with
  | unanswered hfault hcaught =>
    refine ⟨none, _, [], asking_of_unanswered hread hfault hcaught, ?_, verdict_none rfl rfl rfl⟩
    rw [events_asked, List.append_nil]
  | @rejected response hresponse hrejected =>
    refine ⟨some response, _, [], asking_of_answered hread hresponse, ?_, ?_, ?_, ?_, ?_⟩
    · simp [events_asked, Moment.events]
    · intro accepted
      have hnot : ¬response.Accepted := by
        rw [← StepResponse.isAccepted_iff, hrejected]
        exact Bool.false_ne_true
      simp only [reduceCtorEq, Option.some.injEq, false_iff, not_and]
      rintro rfl
      exact hnot
    · exact fun _ => ⟨rfl, rfl⟩
    · intro accepted heq
      cases heq
    · simp [Moment.leave, StepResponse.contribution_of_rejected hrejected]
  | @accepted response actions errors site acting hresponse haccepted hactions hacting =>
    refine ⟨some response, _, acting, asking_of_answered hread hresponse, ?_, ?_, ?_, ?_, ?_⟩
    · simp [events_asked, Moment.events]
    · intro accepted
      have hyes : response.Accepted := StepResponse.isAccepted_iff.1 haccepted
      constructor
      · intro heq
        obtain rfl := Option.some.inj heq
        exact ⟨rfl, hyes⟩
      · exact And.left
    · intro heq
      cases heq
    · intro accepted heq
      obtain rfl := Option.some.inj heq
      exact ⟨actions, errors, hactions, hacting⟩
    · simp [Moment.leave, contribution_eq haccepted]

/-- Processing a step is to take a screenshot, to ask for a response to it, and to heed that. -/
theorem Processing.heeds (h : engine.Processing task s result s' history) :
    ∃ screenshot site shooting response asking acting,
      (engine.device.screenshot task.step).Yields s.site screenshot site shooting ∧
      engine.Asking task s.context s.sent site.disk screenshot response asking ∧
      history.events = shooting ++ asking ++ acting ∧
      engine.Verdict response (s.captured site screenshot) result s' acting := by
  cases h with
  | @unseen site shooting hshot =>
    refine ⟨none, site, shooting, none, [], [], hshot, .unseen, ?_, verdict_none rfl rfl rfl⟩
    simp
  | @unreadable screenshot site disk shooting reading hshot hread =>
    obtain ⟨rfl, rfl⟩ := (Picture.silent_encodeFile _).of_yields hread
    refine ⟨some screenshot, site, shooting, none, [], [], hshot, .unreadable hread.result, ?_,
      verdict_none rfl rfl rfl⟩
    simp [Moment.events]
  | @sent screenshot site disk shooting reading image _ _ later hshot hread hconsulting =>
    obtain ⟨rfl, rfl⟩ := (Picture.silent_encodeFile _).of_yields hread
    obtain ⟨response, asking, acting, hasking, hevents, hverdict⟩ := hconsulting.heeds screenshot hread.result
    refine ⟨some screenshot, site, shooting, response, asking, acting, hshot, ?_, ?_, hverdict⟩
    · -- a request does not depend on the factor
      cases hasking with
      | unreadable hnone => exact .unreadable hnone
      | unconfigured himage hurl => exact .unconfigured himage hurl
      | unanswered himage hd hresponds => exact .unanswered himage hd hresponds
      | answered himage hd hresponds => exact .answered himage hd hresponds
    · simp [Moment.events, hevents]

/-- **A step heeds the response.** A step that is processed takes one screenshot, sends at most one request,
and behind it the device does what the actions of the response ask for if that is accepted, and nothing
otherwise. The response is the result just if it is accepted. The context takes the factor from the
screenshot if there is one and the identity from the response if there is one, accepted or not; what an
accepted response has seen is added to it, and the description stays. -/
theorem step_heeds_response (h : (engine.processStep task s).result = .ok result) :
    ∃ screenshot site shooting response asking acting,
      (engine.device.screenshot task.step).Yields s.site screenshot site shooting ∧
      engine.Asking task s.context s.sent site.disk screenshot response asking ∧
      (engine.processStep task s).trace = shooting ++ asking ++ acting ∧
      engine.Verdict response (s.captured site screenshot) result (engine.processStep task s).state
        acting := by
  obtain ⟨history, hprocessing, htrace⟩ := processing_of_yields (Routine.yields_of_result h)
  rw [htrace]
  exact hprocessing.heeds

end Engine

namespace Rehearsal

/-- An engine whose device does everything, and whose service has something to do although an assertion has
failed, which is optional. -/
def lenient : Engine (List DeviceCall) :=
  engine ⟨fun _ _ => true, fun _ _ => some (.taken (.octets []) (.real .half)), { names := ["a".toList] }⟩
    "https://v/".toList fun _ => .answered 200 [] (Utf8.encode
      "\x7b\"actions\":[\"home\"],\"failed_assertions\":[\"Optional: x\"],\"context\":\"c\"\x7d".toList)

/-- A step with an assertion. -/
def assertive : StepTask := { step := ⟨"A".toList, ["Optional: x".toList], [], false⟩ }

/-- What becomes of this step. -/
def heeding : Outcome (Session (List DeviceCall)) (Option StepResponse) := lenient.processStep assertive start

/-- The response to this step. -/
def lenience : StepResponse where
  failedAssertions := some ["Optional: x".toList]
  actions := some ["home".toList]
  context := some "c".toList

end Rehearsal

namespace Engine

/-- A response is accepted although something has failed that is optional. -/
theorem step_heeds_response_of_optional :
    Rehearsal.heeding.result = .ok (some Rehearsal.lenience) ∧
      (∃ screenshot site shooting response asking acting,
        Rehearsal.lenient.Asking Rehearsal.assertive {} 0 site.disk screenshot response asking ∧
          Rehearsal.heeding.trace = shooting ++ asking ++ acting ∧
          Rehearsal.lenient.Verdict response (Rehearsal.start.captured site screenshot)
            (some Rehearsal.lenience) Rehearsal.heeding.state acting) ∧
      Rehearsal.heeding.trace =
        [.called (.screenshot "A".toList),
          .posted "https://v/".toList "k".toList "c".toList (.step {
            image := .file (.octets []), stepName := "A".toList, description := []
            assertions := ["Optional: x".toList] }),
          .called .home, .slept (.int 1000)] ∧
      Rehearsal.heeding.state.context = { factor := .real .half, seen := ["c".toList] } := by
  have h : Rehearsal.heeding.result = .ok (some Rehearsal.lenience) :=
    Routine.result_of_toOption (by decide +kernel)
  obtain ⟨screenshot, site, shooting, response, asking, acting, -, hasking, htrace, hverdict⟩ :=
    step_heeds_response h
  exact ⟨h, ⟨screenshot, site, shooting, response, asking, acting, hasking, htrace, hverdict⟩,
    by decide +kernel, by decide +kernel⟩

end Engine

end ScreenScript
