import ScreenScript.Proofs.Run.Lineage
import ScreenScript.Proofs.Run.Session

/-!
# How a step is processed

A step that is processed once goes one of five ways: there is no screenshot, or it cannot be sent, or the
service does not answer, or the response is rejected, or it is accepted and its actions are carried out.

* `Engine.Consulting`, `Engine.Processing` — the ways, each with the history of what happens
* `Engine.processing_of_yields` — there are no others
* `Engine.Processing.recounts` — the history of each way tells what becomes of the context
* `Engine.Processing.links` — the request of each way names the last response
-/

namespace ScreenScript

namespace Engine

variable {δ : Type}

/-! ## The ways -/

/-- Sending a screenshot: its result, the session it leaves, and the history of what happens. -/
inductive Consulting (engine : Engine δ) (task : StepTask) (image : EncodedImage) (s : Session δ) :
    Option StepResponse → Session δ → History → Prop
  /-- the service has no response -/
  | unanswered {fault : Fault} :
    (engine.service.processStep (requestFor task s.context image) s.sent).result = .error fault →
    (serviceFault fault).isSome →
    Consulting engine task image s none
      { s with
        sent := s.sent + (engine.service.exchange (.step (requestFor task s.context image))).length }
      (Moment.asked engine.service (.step (requestFor task s.context image)))
  /-- the response is rejected -/
  | rejected {response : StepResponse} :
    (engine.service.processStep (requestFor task s.context image) s.sent).result = .ok response →
    response.isAccepted = false →
    Consulting engine task image s none
      { s with
        sent := s.sent + (engine.service.exchange (.step (requestFor task s.context image))).length
        context := Moment.leave s.context (.answered response) }
      (Moment.asked engine.service (.step (requestFor task s.context image)) ++ [.answered response])
  /-- the response is accepted, and its actions are carried out -/
  | accepted {response : StepResponse} {actions : List Text} {errors : List SoftError}
    {site : Site δ} {acting : List Event} :
    (engine.service.processStep (requestFor task s.context image) s.sent).result = .ok response →
    response.isAccepted = true → response.actions = some actions →
    ((engine.interpreter s.context).performAll actions).Yields s.site errors site acting →
    Consulting engine task image s (some response)
      { site
        sent := s.sent + (engine.service.exchange (.step (requestFor task s.context image))).length
        context := Moment.leave s.context (.answered response) }
      (Moment.asked engine.service (.step (requestFor task s.context image)) ++ [.answered response] ++
        History.ofEvents acting)

/-- Processing a step: its result, the session it leaves, and the history of what happens. -/
inductive Processing (engine : Engine δ) (task : StepTask) (s : Session δ) :
    Option StepResponse → Session δ → History → Prop
  /-- there is no screenshot -/
  | unseen {site : Site δ} {shooting : List Event} :
    (engine.device.screenshot task.step).Yields s.site none site shooting →
    Processing engine task s none { s with site } (History.ofEvents shooting)
  /-- the screenshot cannot be sent -/
  | unreadable {screenshot : Screenshot} {site : Site δ} {disk : Disk} {shooting reading : List Event} :
    (engine.device.screenshot task.step).Yields s.site (some screenshot) site shooting →
    (Picture.encodeFile screenshot.path).Yields site.disk none disk reading →
    Processing engine task s none
      { s with
        site := { site with disk }, context := { s.context with factor := screenshot.factor } }
      (History.ofEvents shooting ++ [.captured screenshot] ++ History.ofEvents reading)
  /-- the screenshot is sent -/
  | sent {screenshot : Screenshot} {site : Site δ} {disk : Disk} {shooting reading : List Event}
    {image : EncodedImage} {response : Option StepResponse} {s' : Session δ} {history : History} :
    (engine.device.screenshot task.step).Yields s.site (some screenshot) site shooting →
    (Picture.encodeFile screenshot.path).Yields site.disk (some image) disk reading →
    engine.Consulting task image
      { s with
        site := { site with disk }, context := { s.context with factor := screenshot.factor } }
      response s' history →
    Processing engine task s response s'
      (History.ofEvents shooting ++ [.captured screenshot] ++ History.ofEvents reading ++ history)

variable {engine : Engine δ} {task : StepTask} {s s' : Session δ}

/-! ## Carrying out actions -/

/-- What the actions leave and do, with the messages before and behind them. -/
theorem performing_yields {step : Step} {actions : List Text} {message : Text} {u : Unit}
    {events : List Event}
    (h : (do
      say .info message
      let context ← Session.getContext
      let errors ← Session.onSite ((engine.interpreter context).performAll actions)
      if errors ≠ [] then
        say .warning ("步骤 '".toList ++ step.name ++ "' 有 ".toList ++ Text.ofNat errors.length ++
          " 个动作执行出错".toList) : Routine (Session δ) Unit).Yields s u s' events) :
    ∃ errors site, ((engine.interpreter s.context).performAll actions).Yields s.site errors site events ∧
      s' = { s with site } := by
  rw [yields_say_bind, Session.yields_getContext_bind, Session.yields_onSite_bind] at h
  obtain ⟨errors, site, acting, later, hacting, h, rfl⟩ := h
  have hsilent : Routine.Silent (if errors ≠ [] then
      say .warning ("步骤 '".toList ++ step.name ++ "' 有 ".toList ++ Text.ofNat errors.length ++
        " 个动作执行出错".toList) else pure () : Routine (Session δ) Unit) := by
    split
    · exact Routine.silent_say
    · exact Routine.silent_pure
  obtain ⟨rfl, rfl⟩ := hsilent.of_yields h
  rw [List.append_nil]
  exact ⟨errors, site, hacting, rfl⟩

/-- What carrying out the actions of a response leaves and does. -/
theorem carryOut_yields {step : Step} {response : StepResponse} {actions : List Text} {u : Unit}
    {events : List Event} (h : (engine.carryOut step response actions).Yields s u s' events) :
    ∃ errors site,
      ((engine.interpreter s.context).performAll actions).Yields s.site errors site events ∧
      s' = { s with
        site, context.seen := s.context.seen ++
          if response.context.getD [] ≠ [] then [response.context.getD []] else [] } := by
  rw [carryOut] at h
  obtain ⟨u₁, h⟩ := (silent_sayPassed _ _).of_bind h
  by_cases hseen : response.context.getD [] ≠ []
  · simp only [if_pos hseen] at h ⊢
    rw [Session.yields_changeContext_bind] at h
    exact performing_yields h
  · simp only [if_neg hseen, List.append_nil] at h ⊢
    exact performing_yields h

/-! ## There are no other ways -/

theorem events_asked (service : VisionService) (request : VisionRequest) :
    History.events (Moment.asked service request) = service.exchange request := by
  rw [Moment.asked, VisionService.exchange]
  cases service.destination request <;> rfl

/-- What deciding on a response leaves and does. -/
theorem answer_yields {step : Step} {response : StepResponse} {result : Option StepResponse}
    {events : List Event} (h : (engine.answer step response).Yields s result s' events) :
    (response.isAccepted = false ∧ result = none ∧ events = [] ∧
      s' = { s with context := Moment.leave s.context (.answered response) }) ∨
    ∃ actions errors site, response.isAccepted = true ∧ response.actions = some actions ∧
      result = some response ∧
      ((engine.interpreter s.context).performAll actions).Yields s.site errors site events ∧
      s' = { s with site, context := Moment.leave s.context (.answered response) } := by
  rw [answer, Session.yields_changeContext_bind] at h
  cases hactions : response.actions with
  | none =>
    have hrejected : response.isAccepted = false := by
      rw [StepResponse.isAccepted, hactions]
      rfl
    rw [hactions] at h
    simp only [yields_say_bind, Routine.yields_pure] at h
    obtain ⟨rfl, rfl, rfl⟩ := h
    refine .inl ⟨hrejected, rfl, rfl, ?_⟩
    rw [Moment.leave, StepResponse.contribution_of_rejected hrejected, List.append_nil]
  | some actions =>
    rw [hactions] at h
    obtain ⟨u, h⟩ := (silent_sayFailed _ _).of_bind h
    cases haccepted : response.isAccepted with
    | false =>
      rw [haccepted, if_neg Bool.false_ne_true, Routine.yields_pure] at h
      obtain ⟨rfl, rfl, rfl⟩ := h
      refine .inl ⟨rfl, rfl, rfl, ?_⟩
      rw [Moment.leave, StepResponse.contribution_of_rejected haccepted, List.append_nil]
    | true =>
      rw [haccepted, if_pos rfl, Routine.yields_bind] at h
      obtain ⟨u', s₁, acting, later, hacting, h, rfl⟩ := h
      obtain ⟨errors, site, hsite, rfl⟩ := carryOut_yields hacting
      obtain ⟨rfl, rfl, rfl⟩ := Routine.yields_pure.1 h
      refine .inr ⟨actions, errors, site, rfl, rfl, rfl, ?_, ?_⟩
      · rw [List.append_nil]
        exact hsite
      · rw [Moment.leave, StepResponse.contribution_of_accepted haccepted]

/-- A screenshot that is sent goes one of the ways. -/
theorem consulting_of_yields {image : EncodedImage} {result : Option StepResponse}
    {events : List Event} (h : (engine.consult task image).Yields s result s' events) :
    ∃ history, engine.Consulting task image s result s' history ∧ events = history.events := by
  rw [consult, Session.yields_getContext_bind, yields_say_bind, Routine.yields_bind] at h
  obtain ⟨answer, s₁, asking, later, hanswer, h, rfl⟩ := h
  obtain ⟨hresult, rfl, rfl⟩ := Session.attempt_yields hanswer
  obtain ⟨hsent, htrace⟩ := engine.service.processStep_effect (requestFor task s.context image) s.sent
  rw [hsent] at h
  rcases hresult with ⟨response, rfl, hresult⟩ | ⟨fault, b, rfl, hresult, hcaught⟩
  · rcases answer_yields h with ⟨hrejected, rfl, rfl, rfl⟩ | ⟨actions, errors, site, haccepted,
      hactions, rfl, hacting, rfl⟩
    · refine ⟨_, .rejected hresult hrejected, ?_⟩
      simp [Moment.events, events_asked, htrace]
    · refine ⟨_, .accepted hresult haccepted hactions hacting, ?_⟩
      simp [Moment.events, events_asked, htrace]
  · simp only [yields_say_bind, Routine.yields_pure] at h
    obtain ⟨rfl, rfl, rfl⟩ := h
    refine ⟨_, .unanswered hresult (Option.isSome_of_eq_some hcaught), ?_⟩
    simp [events_asked, htrace]

/-- A step that is processed goes one of the ways. -/
theorem processing_of_yields {result : Option StepResponse} {events : List Event}
    (h : (engine.processStep task).Yields s result s' events) :
    ∃ history, engine.Processing task s result s' history ∧ events = history.events := by
  rw [processStep, yields_say_bind, Session.yields_onSite_bind] at h
  obtain ⟨screenshot?, site, shooting, later, hshot, h, rfl⟩ := h
  cases screenshot? with
  | none =>
    simp only [yields_say_bind, Routine.yields_pure] at h
    obtain ⟨rfl, rfl, rfl⟩ := h
    exact ⟨_, .unseen hshot, by simp⟩
  | some screenshot =>
    simp only at h
    rw [Session.yields_changeContext_bind, yields_say_bind, Routine.yields_bind] at h
    obtain ⟨image?, s₁, reading, later, hread, h, rfl⟩ := h
    obtain ⟨disk, hdisk, rfl⟩ := Session.yields_onDisk.1 hread
    cases image? with
    | none =>
      simp only [yields_say_bind, Routine.yields_pure] at h
      obtain ⟨rfl, rfl, rfl⟩ := h
      exact ⟨_, .unreadable hshot hdisk, by simp [Moment.events]⟩
    | some image =>
      obtain ⟨history, hconsulting, rfl⟩ := consulting_of_yields h
      exact ⟨_, .sent hshot hdisk hconsulting, by simp [Moment.events]⟩

/-! ## What the history tells -/

/-- A request for a step says what the context is. -/
theorem recounts_request {image : EncodedImage} (h : s'.context = s.context) :
    History.Recounts (Moment.asked engine.service (.step (requestFor task s.context image))) s s' :=
  History.recounts_asked h fun _ _ _ => ⟨rfl, rfl, rfl⟩

theorem Consulting.recounts {image : EncodedImage} {result : Option StepResponse} {history : History}
    (h : engine.Consulting task image s result s' history) : history.Recounts s s' := by
  cases h with
  | unanswered hresult hcaught => exact recounts_request rfl
  | rejected hresult hrejected =>
    have hasked : History.Recounts
        (Moment.asked engine.service (.step (requestFor task s.context image))) s s :=
      recounts_request rfl
    exact hasked.append (History.recounts_moment rfl trivial)
  | accepted hresult haccepted hactions hacting =>
    rename_i response actions errors site acting
    have hanswered : History.Recounts [.answered response] s
        { s with context := Moment.leave s.context (.answered response) } :=
      History.recounts_moment rfl trivial
    exact ((recounts_request rfl).append hanswered).append (History.recounts_ofEvents rfl)

/-- The history of a step that is processed tells what becomes of the context. -/
theorem Processing.recounts {result : Option StepResponse} {history : History}
    (h : engine.Processing task s result s' history) : history.Recounts s s' := by
  -- the history up to the picture of the screen
  have hread (site : Site δ) (disk : Disk) (screenshot : Screenshot) (shooting reading : List Event) :
      History.Recounts
        (History.ofEvents shooting ++ [.captured screenshot] ++ History.ofEvents reading) s
        { s with
          site := { site with disk }, context := { s.context with factor := screenshot.factor } } := by
    have hshot : (History.ofEvents shooting).Recounts s { s with site } := History.recounts_ofEvents rfl
    have hcaptured : History.Recounts [.captured screenshot] { s with site }
        { s with site, context := { s.context with factor := screenshot.factor } } :=
      History.recounts_moment rfl trivial
    exact (hshot.append hcaptured).append (History.recounts_ofEvents rfl)
  cases h with
  | unseen hshot => exact History.recounts_ofEvents rfl
  | unreadable hshot hdisk => exact hread _ _ _ _ _
  | sent hshot hdisk hconsulting => exact (hread _ _ _ _ _).append hconsulting.recounts

/-! ## How the requests are linked -/

/-- A request for a step with its response, and what is done about it, links the sessions. -/
theorem links_answered {image : EncodedImage} {response : StepResponse}
    (hresult : (engine.service.processStep (requestFor task s.context image) s.sent).result = .ok response)
    (hsent : s'.sent = s.sent +
      (engine.service.exchange (.step (requestFor task s.context image))).length)
    (hprevious : s'.context.previous = response.requestId) (acting : List Event) :
    History.Links engine.service
      (Moment.asked engine.service (.step (requestFor task s.context image)) ++ [.answered response] ++
        History.ofEvents acting) s s' := by
  have hasked : History.Links engine.service
      (Moment.asked engine.service (.step (requestFor task s.context image))) s s' := by
    refine History.links_asked hsent ?_ fun step heq => ?_
    · rw [VisionService.response?_of_processStep hresult]
      exact hprevious
    · rw [← VisionRequest.step.inj heq]
      rfl
  have hanswered : History.Links engine.service [.answered response] s' s' :=
    History.links_of_requests_nil rfl rfl rfl
  exact (hasked.append hanswered).append (History.links_ofEvents rfl rfl)

theorem Consulting.links {image : EncodedImage} {result : Option StepResponse} {history : History}
    (h : engine.Consulting task image s result s' history) : history.Links engine.service s s' := by
  cases h with
  | unanswered hresult hcaught =>
    refine History.links_asked rfl ?_ fun step heq => ?_
    · rw [VisionService.response?_of_processStep_error hresult]
      rfl
    · rw [← VisionRequest.step.inj heq]
      rfl
  | rejected hresult hrejected =>
    rw [← List.append_nil (Moment.asked _ _ ++ _)]
    exact links_answered hresult rfl rfl []
  | accepted hresult haccepted hactions hacting => exact links_answered hresult rfl rfl _

/-- The request of a step that is processed names the last response. -/
theorem Processing.links {result : Option StepResponse} {history : History}
    (h : engine.Processing task s result s' history) : history.Links engine.service s s' := by
  -- up to the picture of the screen, nothing is requested
  have hnone (screenshot : Screenshot) (shooting reading : List Event) :
      History.requests (History.ofEvents shooting ++ [.captured screenshot] ++
        History.ofEvents reading) = [] := by
    simp [History.requests, Moment.request?, History.ofEvents]
  cases h with
  | unseen hshot => exact History.links_ofEvents rfl rfl
  | unreadable hshot hdisk => exact History.links_of_requests_nil (hnone _ _ _) rfl rfl
  | sent hshot hdisk hconsulting =>
    refine .append ?_ hconsulting.links
    exact History.links_of_requests_nil (hnone _ _ _) rfl rfl

end Engine

end ScreenScript
