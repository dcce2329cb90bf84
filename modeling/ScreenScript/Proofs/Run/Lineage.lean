import ScreenScript.Proofs.Run.History
import ScreenScript.Proofs.Vision.Exchange

/-!
# Which response comes last

Requests meet the deliveries of the service in turn, so the requests that have been sent determine which
responses to steps there have been. A request that fails, for whatever reason, has no response, and a
request for a summary has none either. Whether a response is accepted does not matter here.

* `VisionService.response?` — the response to a request, if there is one
* `VisionService.responses` — the responses to requests that meet the deliveries in turn
* `StepResponse.lastIdentity` — the identity of the last one
* `History.Links` — a history whose requests name the last response before them
-/

namespace ScreenScript

/-! ## Responses to requests -/

namespace VisionService

/-- The text of the answer that a delivery is, or why there is none: it cannot be taken or decoded, or it refuses
the request. -/
def answerText (service : VisionService) (delivery : Delivery) : Except Fault Text :=
  match service.web.receive service.url delivery with
  | .error flaw => .error (flawFault flaw)
  | .ok answer =>
    match answer.text with
    | .error fault => .error (.web fault)
    | .ok text =>
      if leastRefusal ≤ answer.status then .error (.vision (.refused answer.status text)) else .ok text

variable {service : VisionService} {sent : Nat}

/-- The response to the request with the number `sent`: only requests for steps have one. It is none if the
request goes nowhere, if the answer has no text, or if the text is not what it has to be. -/
def response? (service : VisionService) (sent : Nat) : VisionRequest → Option StepResponse
  | .step request =>
    match service.destination (.step request), service.answerText (service.deliveries sent) with
    | .ok _, .ok text => (StepResponse.ofText service.validator text).value?
    | _, _ => none
  | .summary _ _ => none

/-- The responses to requests, the first of which has the number `sent`. -/
def responses (service : VisionService) : Nat → List VisionRequest → List StepResponse
  | _, [] => []
  | sent, request :: rest => (service.response? sent request).toList ++ service.responses (sent + 1) rest

theorem responses_singleton (request : VisionRequest) :
    service.responses sent [request] = (service.response? sent request).toList :=
  List.append_nil _

theorem responses_append (xs ys : List VisionRequest) :
    service.responses sent (xs ++ ys) =
      service.responses sent xs ++ service.responses (sent + xs.length) ys := by
  induction xs generalizing sent with
  | nil => rfl
  | cons request xs ih =>
    rw [List.cons_append, responses, ih, responses, List.append_assoc, List.length_cons,
      Nat.add_assoc, Nat.add_comm 1]

/-- What comes of a request that is sent is decided by the delivery that it meets. -/
theorem result_post_of_sent (sent : Nat) {request : VisionRequest} {address : Text}
    (h : service.destination request = .ok address) :
    (service.post request sent).result = service.answerText (service.deliveries sent) := by
  have hpost : (service.post request sent).result = ((do
      let answer ← Routine.ofExcept flawFault (service.web.receive service.url (service.deliveries sent))
      let text ← Routine.ofExcept .web answer.text
      let cached := (answer.header cacheHeader).getD "None".toList
      Routine.say .debug (cached ++ " 原始响应: ".toList ++ text)
      if leastRefusal ≤ answer.status then
        Routine.fail (.vision (.refused answer.status text))
      else
        return text : Routine Nat Text) (sent + 1)).result := by
    rw [post, h]
    rfl
  rw [hpost, answerText]
  cases service.web.receive service.url (service.deliveries sent) with
  | error flaw => rfl
  | ok answer =>
    rw [Routine.ofExcept, Routine.pure_bind]
    dsimp only
    cases answer.text with
    | error fault => rfl
    | ok text =>
      rw [Routine.ofExcept, Routine.pure_bind]
      dsimp only
      split <;> rfl

/-- A step is processed exactly if its request has a response. -/
theorem toOption_processStep (request : StepRequest) :
    (service.processStep request sent).result.toOption = service.response? sent (.step request) := by
  rw [response?]
  cases hd : service.destination (.step request) with
  | error fault =>
    have hpost : (service.post (.step request) sent).result = .error fault := by
      rw [post, hd]
      rfl
    rw [processStep, Routine.bind_of_error hpost]
    rfl
  | ok address =>
    have hpost := result_post_of_sent sent hd
    cases htext : service.answerText (service.deliveries sent) with
    | error fault =>
      rw [htext] at hpost
      rw [processStep, Routine.bind_of_error hpost]
      rfl
    | ok text =>
      rw [htext] at hpost
      rw [processStep, Routine.bind_of_ok hpost]
      dsimp only
      cases StepResponse.ofText service.validator text <;> rfl

theorem response?_of_processStep {request : StepRequest} {response : StepResponse}
    (h : (service.processStep request sent).result = .ok response) :
    service.response? sent (.step request) = some response := by
  rw [← toOption_processStep, h]
  rfl

theorem response?_of_processStep_error {request : StepRequest} {fault : Fault}
    (h : (service.processStep request sent).result = .error fault) :
    service.response? sent (.step request) = none := by
  rw [← toOption_processStep, h]
  rfl

end VisionService

/-! ## The last response -/

/-- The identity of the last response, or else the one known at first. It is none if the last response
has none. -/
def StepResponse.lastIdentity (first : Option Text) (responses : List StepResponse) : Option Text :=
  match responses.getLast? with
  | some response => response.requestId
  | none => first

theorem StepResponse.lastIdentity_append (first : Option Text) (xs ys : List StepResponse) :
    lastIdentity first (xs ++ ys) = lastIdentity (lastIdentity first xs) ys := by
  rw [lastIdentity, List.getLast?_append, lastIdentity]
  cases ys.getLast? with
  | some response => rfl
  | none => rfl

/-! ## Histories -/

/-- The request that is sent at a moment. -/
def Moment.request? : Moment → Option VisionRequest
  | requested _ _ _ request => some request
  | _ => none

namespace History

variable {δ : Type} {service : VisionService} {s s₁ s' : Session δ} {history later : History}
  {request : VisionRequest}

/-- The requests that are sent, in order. -/
def requests (history : History) : List VisionRequest := history.filterMap Moment.request?

@[simp] theorem requests_append : requests (history ++ later) = history.requests ++ later.requests :=
  List.filterMap_append

@[simp] theorem requests_ofEvents (happened : List Event) : requests (ofEvents happened) = [] := by
  rw [requests, ofEvents, List.filterMap_map]
  exact List.filterMap_eq_nil_iff.2 fun _ _ => rfl

/-- Every request for a step names the last response to the requests before it. -/
def Names (service : VisionService) (sent : Nat) (first : Option Text) (history : History) : Prop :=
  ∀ (before after : History) url apiKey clientKey request,
    history = before ++ .requested url apiKey clientKey (.step request) :: after →
    request.previous = StepResponse.lastIdentity first (service.responses sent before.requests)

/-- What happens between two sessions: each request meets the next delivery and names the last response
before it, and the last response of all is the one that is known in the end. -/
structure Links (service : VisionService) (history : History) (s s' : Session δ) : Prop where
  sent : s'.sent = s.sent + history.requests.length
  previous : s'.context.previous =
    StepResponse.lastIdentity s.context.previous (service.responses s.sent history.requests)
  names : history.Names service s.sent s.context.previous

/-- A history without requests links sessions that agree in what requests depend on. -/
theorem links_of_requests_nil (h : history.requests = []) (hsent : s'.sent = s.sent)
    (hprevious : s'.context.previous = s.context.previous) : history.Links service s s' := by
  refine ⟨?_, ?_, ?_⟩
  · rw [h, hsent]
    rfl
  · rw [h, hprevious]
    rfl
  · rintro before after url apiKey clientKey request rfl
    rw [requests_append] at h
    exact absurd h (by simp [requests, Moment.request?])

/-- What leaves the requests and the context alone is linked by its events. -/
theorem links_ofEvents {happened : List Event} (hsent : s'.sent = s.sent)
    (hcontext : s'.context = s.context) : (ofEvents happened).Links service s s' :=
  links_of_requests_nil (requests_ofEvents happened) hsent (congrArg RunContext.previous hcontext)

/-- A request links the session in which it is made with one that knows its response, whether the request
is sent or not. -/
theorem links_asked (hsent : s'.sent = s.sent + (service.exchange request).length)
    (hprevious : s'.context.previous =
      StepResponse.lastIdentity s.context.previous (service.response? s.sent request).toList)
    (hnames : ∀ step, request = .step step → step.previous = s.context.previous) :
    Links service (Moment.asked service request) s s' := by
  rw [VisionService.exchange] at hsent
  rw [Moment.asked]
  cases hd : service.destination request with
  | error fault =>
    rw [hd] at hsent
    have hnone : service.response? s.sent request = none := by
      cases request with
      | step request => rw [VisionService.response?, hd]
      | summary script context => rfl
    rw [hnone] at hprevious
    exact links_of_requests_nil rfl hsent hprevious
  | ok address =>
    rw [hd] at hsent
    refine ⟨hsent, ?_, ?_⟩
    · rw [hprevious, ← VisionService.responses_singleton]
      rfl
    · intro before after url apiKey clientKey step heq
      cases before with
      | nil =>
        obtain ⟨hmoment, -⟩ := List.cons.inj heq
        exact hnames step (Moment.requested.inj hmoment).2.2.2
      | cons moment before => simp at heq

theorem Links.append (h : history.Links service s s₁) (h' : later.Links service s₁ s') :
    (history ++ later).Links service s s' := by
  refine ⟨?_, ?_, ?_⟩
  · rw [requests_append, List.length_append, ← Nat.add_assoc, ← h.sent]
    exact h'.sent
  · rw [requests_append, VisionService.responses_append, StepResponse.lastIdentity_append, ← h.previous,
      ← h.sent]
    exact h'.previous
  · intro before after url apiKey clientKey request heq
    -- the request stands in one of the two histories
    rcases List.append_eq_append_iff.1 heq with ⟨between, rfl, hlater⟩ | ⟨between, hhistory, hafter⟩
    · rw [requests_append, VisionService.responses_append, StepResponse.lastIdentity_append,
        ← h.previous, ← h.sent]
      exact h'.names between after url apiKey clientKey request hlater
    · cases between with
      | nil =>
        rw [List.append_nil] at hhistory
        subst hhistory
        rw [← h.previous]
        exact h'.names [] after url apiKey clientKey request hafter.symm
      | cons moment between =>
        obtain ⟨rfl, rfl⟩ := List.cons.inj hafter
        exact h.names before between url apiKey clientKey request hhistory

end History

end ScreenScript
