import ScreenScript.Proofs.Run.Memory
import ScreenScript.Proofs.Script.Expansion

/-!
# Which requests are marked as the last

The compiler marks the last step of a script, and a request for a step says whether the step is marked.
So the requests that are marked are those of the last step, in every round of it if it is a repeating one;
no other request for a step comes behind them, and a run that goes well ends with one of them and the
request for a summary.

* `Task.Marked` — tasks of which exactly the last step is marked
* `Engine.Carrying`, `Engine.Unfolding` — a run by its tasks, each with its own history
* `Engine.requests_mark_last_step` — which requests of the run of a compiled script are marked
-/

namespace ScreenScript

/-! ## Marks -/

namespace Task

/-- A step is marked exactly if no step is behind it. -/
def Marked : List Task → Prop
  | [] => True
  | task :: rest => task.withMark (!rest.any isScreen) = task ∧ Marked rest

theorem withMark_withMark (task : Task) (old new : Bool) :
    (task.withMark old).withMark new = task.withMark new := by
  cases task <;> rfl

theorem any_isScreen_remark (tasks : List Task) : (remark tasks).any isScreen = tasks.any isScreen := by
  induction tasks with
  | nil => rfl
  | cons task rest ih => rw [remark, List.any_cons, isScreen_withMark, ih, List.any_cons]

/-- Setting the marks anew sets them right. -/
theorem marked_remark (tasks : List Task) : Marked (remark tasks) := by
  induction tasks with
  | nil => trivial
  | cons task rest ih => exact ⟨by rw [any_isScreen_remark, withMark_withMark], ih⟩

/-- The mark of a step says whether a step is behind it. -/
theorem Marked.isLast_eq {task : StepTask} {rest : List Task} (h : Marked (.screen task :: rest)) :
    task.step.isLast = !rest.any isScreen :=
  congrArg (fun task : StepTask => task.step.isLast) (Task.screen.inj h.1).symm

end Task

/-- The tasks of a script are marked. -/
theorem Compilation.marked_of_result {stream : DigitStream} {drawn : Nat} {maxRepeats : Int}
    {lines : List Text} {tasks : List Task}
    (h : (ofLines stream drawn maxRepeats lines).result = .ok tasks) : Task.Marked tasks := by
  obtain ⟨significant, hs⟩ := exists_all?_of_scan (error_scan_of_result h)
  rw [result_ofLines hs] at h
  obtain ⟨final, hfinal, hopened, rfl⟩ := Draft.exists_of_bind_finish h
  have hunmarked : final.tasks.map (Task.withMark false) = final.tasks := by
    rw [Draft.tasks_readAll hfinal rfl hopened, List.nil_append, Passage.map_withMark_unmarkedTasks]
  rw [← hunmarked, Task.markLast_map_withMark]
  exact Task.marked_remark final.tasks

/-! ## Requests -/

/-- The request for a step that a request is. -/
def VisionRequest.step? : VisionRequest → Option StepRequest
  | step request => some request
  | summary _ _ => none

/-- The requests for steps, in order. -/
def History.stepRequests (history : History) : List StepRequest :=
  history.requests.filterMap VisionRequest.step?

theorem History.mem_stepRequests {history : History} {request : StepRequest} :
    request ∈ history.stepRequests ↔ .step request ∈ history.requests := by
  rw [stepRequests, List.mem_filterMap]
  constructor
  · rintro ⟨other, hmem, hother⟩
    cases other with
    | step request' =>
      obtain rfl := Option.some.inj hother
      exact hmem
    | summary script context => cases hother
  · exact fun hmem => ⟨_, hmem, rfl⟩

@[simp] theorem History.stepRequests_append (history later : History) :
    stepRequests (history ++ later) = history.stepRequests ++ later.stepRequests := by
  rw [stepRequests, requests_append, List.filterMap_append, stepRequests, stepRequests]

@[simp] theorem History.stepRequests_ofEvents (happened : List Event) :
    stepRequests (ofEvents happened) = [] := by
  rw [stepRequests, requests_ofEvents, List.filterMap_nil]

namespace VisionService

variable {service : VisionService}

theorem requests_asked_of_ok {request : VisionRequest} {address : Text}
    (h : service.destination request = .ok address) :
    History.requests (Moment.asked service request) = [request] := by
  rw [Moment.asked, h]
  rfl

/-- A request that has a response has been sent. -/
theorem destination_of_processStep {request : StepRequest} {response : StepResponse} {sent : Nat}
    (h : (service.processStep request sent).result = .ok response) :
    ∃ address, service.destination (.step request) = .ok address := by
  have hresponse := response?_of_processStep h
  rw [response?] at hresponse
  cases hd : service.destination (.step request) with
  | ok address => exact ⟨address, rfl⟩
  | error fault =>
    rw [hd] at hresponse
    cases hresponse

/-- A request that is sent goes to a service whose address is given. -/
theorem url_of_destination_ok {request : VisionRequest} {address : Text}
    (h : service.destination request = .ok address) : service.url ≠ [] := by
  intro hurl
  rw [destination, if_pos hurl] at h
  cases h

end VisionService

namespace Engine

variable {δ : Type} {engine : Engine δ} {script : Text} {s s₁ s' : Session δ} {ok : Bool}
  {history : History}

/-- A step that is processed once makes one request at most, and one whose response is accepted makes
it. -/
theorem Processing.requests_eq {task : StepTask} {response : Option StepResponse}
    (h : engine.Processing task s response s' history) :
    (history.requests = [] ∧ response = none) ∨
      ∃ request address, history.requests = [.step request] ∧
        engine.service.destination (.step request) = .ok address ∧
        request.isLast = task.step.isLast := by
  cases h with
  | unseen hshot => exact .inl ⟨History.requests_ofEvents _, rfl⟩
  | unreadable hshot hread =>
    refine .inl ⟨?_, rfl⟩
    simp only [History.requests_append, History.requests_ofEvents]
    rfl
  | @sent screenshot site disk shooting reading image _ _ consulting hshot hread hconsulting =>
    have hrequests : History.requests (History.ofEvents shooting ++ [.captured screenshot] ++
        History.ofEvents reading ++ consulting) = consulting.requests := by
      simp only [History.requests_append, History.requests_ofEvents, List.nil_append]
      rfl
    rw [hrequests]
    cases hconsulting with
    | unanswered hfault hcaught =>
      cases hd : engine.service.destination (.step (requestFor task
          { s.context with factor := screenshot.factor } image)) with
      | ok address => exact .inr ⟨_, address, VisionService.requests_asked_of_ok hd, hd, rfl⟩
      | error fault => exact .inl ⟨by rw [Moment.asked, hd]; rfl, rfl⟩
    | rejected hresponse hrejected =>
      obtain ⟨address, hd⟩ := VisionService.destination_of_processStep hresponse
      refine .inr ⟨_, address, ?_, hd, rfl⟩
      rw [History.requests_append, VisionService.requests_asked_of_ok hd]
      rfl
    | accepted hresponse haccepted hactions hacting =>
      obtain ⟨address, hd⟩ := VisionService.destination_of_processStep hresponse
      refine .inr ⟨_, address, ?_, hd, rfl⟩
      rw [History.requests_append, History.requests_append, VisionService.requests_asked_of_ok hd,
        History.requests_ofEvents]
      rfl

/-- The requests of a step that is processed are requests for it. -/
theorem Processing.isLast_eq {task : StepTask} {response : Option StepResponse} {request : VisionRequest}
    (h : engine.Processing task s response s' history) (hmem : request ∈ history.requests) :
    ∃ step, request = .step step ∧ step.isLast = task.step.isLast := by
  rcases h.requests_eq with ⟨hnone, -⟩ | ⟨step, address, hone, -, hlast⟩
  · rw [hnone] at hmem
    cases hmem
  · rw [hone, List.mem_singleton] at hmem
    exact ⟨step, hmem, hlast⟩

/-! ## Requests of tasks -/

theorem Repeating.isLast_eq {task : StepTask} {rounds : Nat} {request : VisionRequest}
    (h : engine.Repeating task rounds s ok s' history) (hmem : request ∈ history.requests) :
    ∃ step, request = .step step ∧ step.isLast = task.step.isLast := by
  induction h with
  | exhausted s => cases hmem
  | refused hprocessing => exact hprocessing.isLast_eq hmem
  | stopped hprocessing hstop => exact hprocessing.isLast_eq hmem
  | again hprocessing hstop _ ih =>
    rw [History.requests_append, List.mem_append] at hmem
    rcases hmem with hmem | hmem
    · exact hprocessing.isLast_eq hmem
    · exact ih hmem

/-- Only steps make requests, and in every round of a step they say whether it is marked. -/
theorem Executing.isLast_eq {task : Task} {request : VisionRequest}
    (h : engine.Executing task s ok s' history) (hmem : request ∈ history.requests) :
    ∃ step own, request = .step step ∧ task = .screen own ∧ step.isLast = own.step.isLast := by
  cases h with
  | description text s => cases hmem
  | repeating hkind hrepeating =>
    obtain ⟨step, rfl, hlast⟩ := hrepeating.isLast_eq hmem
    exact ⟨step, _, rfl, rfl, hlast⟩
  | once hkind hprocessing =>
    obtain ⟨step, rfl, hlast⟩ := hprocessing.isLast_eq hmem
    exact ⟨step, _, rfl, rfl, hlast⟩
  | other hscreen hdescription hyields =>
    rw [History.requests_ofEvents] at hmem
    cases hmem

theorem Repeating.exists_last {task : StepTask} {rounds : Nat}
    (h : engine.Repeating task rounds s ok s' history) (hok : ok = true) :
    ∃ earlier request address, history.requests = earlier ++ [.step request] ∧
      engine.service.destination (.step request) = .ok address := by
  induction h with
  | exhausted s => cases hok
  | refused hprocessing => cases hok
  | stopped hprocessing hstop =>
    rcases hprocessing.requests_eq with ⟨-, hnone⟩ | ⟨request, address, hone, hd, -⟩
    · cases hnone
    · exact ⟨[], request, address, hone, hd⟩
  | again hprocessing hstop _ ih =>
    obtain ⟨earlier, request, address, hlater, hd⟩ := ih hok
    exact ⟨_, request, address, by rw [History.requests_append, hlater, List.append_assoc], hd⟩

/-- A step that goes well makes a request. -/
theorem Executing.exists_last {task : StepTask} (h : engine.Executing (.screen task) s true s' history) :
    ∃ earlier request address, history.requests = earlier ++ [.step request] ∧
      engine.service.destination (.step request) = .ok address := by
  generalize hok : true = ok at h
  cases h with
  | repeating hkind hrepeating => exact hrepeating.exists_last hok.symm
  | once hkind hprocessing =>
    rcases hprocessing.requests_eq with ⟨-, rfl⟩ | ⟨request, address, hone, hd, -⟩
    · cases hok
    · exact ⟨[], request, address, hone, hd⟩
  | other hscreen hdescription hyields => cases hscreen

/-! ## A run by its tasks -/

/-- Tasks that are carried out until one fails, each with its history and that of the pause behind it. -/
inductive Carrying (engine : Engine δ) :
    List Task → Session δ → Bool → Session δ → List History → Prop
  /-- there is no task left -/
  | done (s : Session δ) : Carrying engine [] s true s []
  /-- the first task fails -/
  | failed {task : Task} {rest : List Task} {s s' : Session δ} {history : History} :
    engine.Executing task s false s' history → Carrying engine (task :: rest) s false s' [history]
  /-- the first task goes well -/
  | next {task : Task} {rest : List Task} {s s₁ s' : Session δ} {ok : Bool} {history : History}
    {parts : List History} :
    engine.Executing task s true s₁ history → Carrying engine rest s₁ ok s' parts →
    Carrying engine (task :: rest) s ok s' ((history ++ History.ofEvents engine.taskPause) :: parts)

/-- A run with the history of each task that was begun, and the history of the whole. -/
inductive Unfolding (engine : Engine δ) (tasks : List Task) (script : Text) (s : Session δ) :
    Bool → Session δ → List History → History → Prop
  /-- the device is not there -/
  | absent {site : Site δ} {asking : List Event} :
    engine.device.isConnected.Yields s.site false site asking →
    Unfolding engine tasks script s false { s with site } [] (History.ofEvents asking)
  /-- a task fails -/
  | failed {site : Site δ} {s' : Session δ} {asking : List Event} {parts : List History} :
    engine.device.isConnected.Yields s.site true site asking →
    engine.Carrying tasks { s with site } false s' parts →
    Unfolding engine tasks script s false s' parts (History.ofEvents asking ++ parts.flatten)
  /-- every task goes well -/
  | finished {site : Site δ} {s₁ : Session δ} {asking last : List Event} {parts : List History} :
    engine.device.isConnected.Yields s.site true site asking →
    engine.Carrying tasks { s with site } true s₁ parts → engine.SumsUp script s₁ last →
    Unfolding engine tasks script s true { s₁ with sent := s₁.sent + last.length } parts
      (History.ofEvents asking ++ parts.flatten ++
        Moment.asked engine.service (.summary script s₁.context.joined))

/-- Tasks that follow each other are carried out. -/
theorem Following.carrying {tasks : List Task} (h : engine.Following tasks s s' history) :
    ∃ parts, engine.Carrying tasks s true s' parts ∧ history = parts.flatten := by
  induction h with
  | nil s => exact ⟨[], .done s, rfl⟩
  | cons hexecuting _ ih =>
    obtain ⟨parts, hparts, rfl⟩ := ih
    exact ⟨_, .next hexecuting hparts, (List.flatten_cons ..).symm⟩

/-- They are carried out up to one behind them that fails. -/
theorem Following.carrying_failed {done rest : List Task} {task : Task} {last : History}
    (h : engine.Following done s s₁ history) (hfails : engine.Executing task s₁ false s' last) :
    ∃ parts, engine.Carrying (done ++ task :: rest) s false s' parts ∧
      history ++ last = parts.flatten := by
  induction h with
  | nil s => exact ⟨[last], .failed hfails, by simp⟩
  | cons hexecuting _ ih =>
    obtain ⟨parts, hparts, hflatten⟩ := ih hfails
    exact ⟨_, .next hexecuting hparts, by rw [List.append_assoc, hflatten, List.flatten_cons]⟩

theorem Running.unfolding {tasks : List Task} (h : engine.Running tasks script s ok s' history) :
    ∃ parts, engine.Unfolding tasks script s ok s' parts history := by
  cases h with
  | absent hasking => exact ⟨[], .absent hasking⟩
  | failed hasking htasks hfollowing hexecuting =>
    subst htasks
    obtain ⟨parts, hparts, hflatten⟩ := hfollowing.carrying_failed hexecuting
    exact ⟨parts, by rw [List.append_assoc, hflatten]; exact .failed hasking hparts⟩
  | finished hasking hfollowing hsum =>
    obtain ⟨parts, hparts, rfl⟩ := hfollowing.carrying
    exact ⟨parts, .finished hasking hparts hsum⟩

/-! ## Requests of a run -/

variable {tasks : List Task} {parts : List History}

/-- The requests of a task in front of others are marked exactly if none of these is a step. -/
theorem Executing.isLast_of_marked {task : Task} {rest : List Task} {request : VisionRequest}
    (h : engine.Executing task s ok s' history) (hmarked : Task.Marked (task :: rest))
    (hmem : request ∈ history.requests) :
    ∃ step own, request = .step step ∧ task = .screen own ∧ step.isLast = !rest.any Task.isScreen := by
  obtain ⟨step, own, rfl, rfl, hlast⟩ := h.isLast_eq hmem
  exact ⟨step, own, rfl, rfl, hlast.trans hmarked.isLast_eq⟩

/-- A request belongs to the step whose history it stands in, and it is marked exactly if no step is
behind that one. -/
theorem Carrying.isLast_eq (h : engine.Carrying tasks s ok s' parts) (hmarked : Task.Marked tasks)
    {place : Nat} {part : History} (hpart : parts[place]? = some part) {request : VisionRequest}
    (hmem : request ∈ part.requests) :
    ∃ step own, request = .step step ∧ tasks[place]? = some (.screen own) ∧
      step.isLast = !(tasks.drop (place + 1)).any Task.isScreen := by
  induction h generalizing place with
  | done s => cases hpart
  | failed hexecuting =>
    cases place with
    | zero =>
      obtain rfl := Option.some.inj hpart
      obtain ⟨step, own, rfl, rfl, hlast⟩ := hexecuting.isLast_of_marked hmarked hmem
      exact ⟨step, own, rfl, rfl, hlast⟩
    | succ place => cases hpart
  | next hexecuting _ ih =>
    cases place with
    | zero =>
      obtain rfl := Option.some.inj hpart
      rw [History.requests_append, History.requests_ofEvents, List.append_nil] at hmem
      obtain ⟨step, own, rfl, rfl, hlast⟩ := hexecuting.isLast_of_marked hmarked hmem
      exact ⟨step, own, rfl, rfl, hlast⟩
    | succ place => exact ih hmarked.2 hpart

/-- Where there is no step, there are no requests. -/
theorem Carrying.requests_eq_nil (h : engine.Carrying tasks s ok s' parts)
    (hmarked : Task.Marked tasks) (hnone : tasks.any Task.isScreen = false) :
    History.requests parts.flatten = [] := by
  refine List.eq_nil_iff_forall_not_mem.2 fun request hmem => ?_
  obtain ⟨moment, hmoment, hrequest⟩ := List.mem_filterMap.1 hmem
  obtain ⟨part, hpart, hmoment⟩ := List.mem_flatten.1 hmoment
  obtain ⟨place, hplace⟩ := List.mem_iff_getElem?.1 hpart
  obtain ⟨step, own, rfl, hown, -⟩ :=
    h.isLast_eq hmarked hplace (List.mem_filterMap.2 ⟨moment, hmoment, hrequest⟩)
  exact List.any_eq_false.1 hnone _ (List.mem_of_getElem? hown) rfl

/-- The requests of one task are marked alike. -/
theorem Executing.pairwise_isLast {task : Task} (h : engine.Executing task s ok s' history) :
    history.stepRequests.Pairwise fun earlier later => earlier.isLast = true → later.isLast = true := by
  refine List.pairwise_of_forall_mem_list fun earlier hearlier later hlater hmark => ?_
  obtain ⟨step, own, hstep, rfl, hlast⟩ := h.isLast_eq (History.mem_stepRequests.1 hearlier)
  obtain ⟨step', own', hstep', htask, hlast'⟩ := h.isLast_eq (History.mem_stepRequests.1 hlater)
  obtain rfl := Task.screen.inj htask
  rw [VisionRequest.step.inj hstep, hlast] at hmark
  rw [VisionRequest.step.inj hstep', hlast', hmark]

/-- Behind a request that is marked, all are. -/
theorem Carrying.pairwise_isLast (h : engine.Carrying tasks s ok s' parts)
    (hmarked : Task.Marked tasks) :
    (History.stepRequests parts.flatten).Pairwise fun earlier later =>
      earlier.isLast = true → later.isLast = true := by
  induction h with
  | done s => exact List.Pairwise.nil
  | failed hexecuting =>
    rw [List.flatten_singleton]
    exact hexecuting.pairwise_isLast
  | next hexecuting hrest ih =>
    rw [List.flatten_cons, History.stepRequests_append, History.stepRequests_append,
      History.stepRequests_ofEvents, List.append_nil]
    refine List.pairwise_append.2 ⟨hexecuting.pairwise_isLast, ih hmarked.2, ?_⟩
    -- a request of the first task is only marked if there are none behind it
    intro earlier hearlier later hlater hmark
    obtain ⟨step, own, hstep, -, hlast⟩ :=
      hexecuting.isLast_of_marked hmarked (History.mem_stepRequests.1 hearlier)
    rw [VisionRequest.step.inj hstep, hlast, Bool.not_eq_true'] at hmark
    have hmem := History.mem_stepRequests.1 hlater
    rw [hrest.requests_eq_nil hmarked.2 hmark] at hmem
    cases hmem

/-- Where there is a step and every task goes well, the last request is a marked one. -/
theorem Carrying.exists_last (h : engine.Carrying tasks s ok s' parts) (hok : ok = true)
    (hmarked : Task.Marked tasks) (hstep : tasks.any Task.isScreen = true) :
    ∃ earlier request address, History.requests parts.flatten = earlier ++ [.step request] ∧
      engine.service.destination (.step request) = .ok address ∧ request.isLast = true := by
  induction h with
  | done s => cases hstep
  | failed hexecuting => cases hok
  | @next task rest _ _ _ _ history parts hexecuting hrest ih =>
    have hrequests : History.requests
        ((history ++ History.ofEvents engine.taskPause) :: parts).flatten =
          history.requests ++ History.requests parts.flatten := by
      rw [List.flatten_cons, History.requests_append, History.requests_append,
        History.requests_ofEvents, List.append_nil]
    rw [hrequests]
    cases hbehind : rest.any Task.isScreen with
    | true =>
      obtain ⟨earlier, request, address, hlater, hd, hmark⟩ := ih hok hmarked.2 hbehind
      exact ⟨_, request, address, by rw [hlater, List.append_assoc], hd, hmark⟩
    | false =>
      rw [List.any_cons, hbehind, Bool.or_false] at hstep
      cases task with
      | screen own =>
        obtain ⟨earlier, request, address, hown, hd⟩ := hexecuting.exists_last
        rw [hrest.requests_eq_nil hmarked.2 hbehind, List.append_nil]
        refine ⟨earlier, request, address, hown, hd, ?_⟩
        obtain ⟨step, own', heq, -, hlast⟩ :=
          hexecuting.isLast_of_marked hmarked (hown ▸ List.mem_concat_self)
        rw [VisionRequest.step.inj heq, hlast, hbehind]
        rfl
      | _ => cases hstep

/-- Outside the tasks, no request for a step is made. -/
theorem Unfolding.stepRequests_eq (h : engine.Unfolding tasks script s ok s' parts history) :
    history.stepRequests = History.stepRequests parts.flatten := by
  cases h with
  | absent hasking => exact History.stepRequests_ofEvents _
  | failed hasking hcarrying =>
    rw [History.stepRequests_append, History.stepRequests_ofEvents, List.nil_append]
  | finished hasking hcarrying hsum =>
    rw [History.stepRequests_append, History.stepRequests_append, History.stepRequests_ofEvents,
      List.nil_append, Moment.asked]
    split
    · exact List.append_nil _
    · exact List.append_nil _

theorem Unfolding.isLast_eq (h : engine.Unfolding tasks script s ok s' parts history)
    (hmarked : Task.Marked tasks) {place : Nat} {part : History} (hpart : parts[place]? = some part)
    {request : VisionRequest} (hmem : request ∈ part.requests) :
    ∃ step own, request = .step step ∧ tasks[place]? = some (.screen own) ∧
      step.isLast = !(tasks.drop (place + 1)).any Task.isScreen := by
  cases h with
  | absent hasking => cases hpart
  | failed hasking hcarrying => exact hcarrying.isLast_eq hmarked hpart hmem
  | finished hasking hcarrying hsum => exact hcarrying.isLast_eq hmarked hpart hmem

theorem Unfolding.pairwise_isLast (h : engine.Unfolding tasks script s ok s' parts history)
    (hmarked : Task.Marked tasks) :
    history.stepRequests.Pairwise fun earlier later => earlier.isLast = true → later.isLast = true := by
  rw [h.stepRequests_eq]
  cases h with
  | absent hasking => exact List.Pairwise.nil
  | failed hasking hcarrying => exact hcarrying.pairwise_isLast hmarked
  | finished hasking hcarrying hsum => exact hcarrying.pairwise_isLast hmarked

/-- Behind the last request of a run that goes well, only the request for a summary comes. -/
theorem Unfolding.exists_last (h : engine.Unfolding tasks script s true s' parts history)
    (hmarked : Task.Marked tasks) (hstep : tasks.any Task.isScreen = true) :
    ∃ earlier request context, history.requests = earlier ++ [.step request, .summary script context] ∧
      request.isLast = true := by
  cases h with
  | @finished site s₁ asking last parts hasking hcarrying hsum =>
    obtain ⟨earlier, request, address, hparts, hd, hmark⟩ := hcarrying.exists_last rfl hmarked hstep
    -- the address is known, so the summary has been asked for
    rw [SumsUp, if_neg (VisionService.url_of_destination_ok hd)] at hsum
    obtain ⟨goal, hsummary, -⟩ := hsum
    refine ⟨earlier, request, s₁.context.joined, ?_, hmark⟩
    rw [History.requests_append, History.requests_append, History.requests_ofEvents, hparts,
      VisionService.requests_asked_of_ok hsummary, List.nil_append,
      List.append_assoc]
    rfl

/-- **Requests mark the last step.** Whatever a compiled script meets when it is run, every request for a
step belongs to a step among its tasks, and it is marked exactly if no step is behind that one. Behind a
request that is marked, all requests for steps are. If the run goes well and there is a step at all, the
last of them is marked, and no request but the one for a summary comes behind it. -/
theorem requests_mark_last_step {stream : DigitStream} {drawn : Nat} {maxRepeats : Int}
    {lines : List Text}
    (hcompiled : (Compilation.ofLines stream drawn maxRepeats lines).result = .ok tasks)
    (hrun : (engine.run tasks script s).result = .ok ok) :
    ∃ parts history,
      engine.Unfolding tasks script s ok (engine.run tasks script s).state parts history ∧
      (engine.run tasks script s).trace = history.events ∧
      history.stepRequests = History.stepRequests parts.flatten ∧
      (∀ (place : Nat) (part : History) (request : StepRequest), parts[place]? = some part →
        request ∈ part.stepRequests → ∃ own, tasks[place]? = some (.screen own) ∧
          request.isLast = !(tasks.drop (place + 1)).any Task.isScreen) ∧
      (history.stepRequests.Pairwise fun earlier later =>
        earlier.isLast = true → later.isLast = true) ∧
      (ok = true → tasks.any Task.isScreen = true → ∃ earlier request context,
        history.requests = earlier ++ [.step request, .summary script context] ∧
          request.isLast = true) := by
  have hmarked := Compilation.marked_of_result hcompiled
  obtain ⟨history, hrunning, htrace⟩ :=
    running_of_course (course_of_run (Routine.yields_of_result hrun))
  obtain ⟨parts, hunfolding⟩ := hrunning.unfolding
  refine ⟨parts, history, hunfolding, htrace, hunfolding.stepRequests_eq, ?_,
    hunfolding.pairwise_isLast hmarked, ?_⟩
  · intro place part request hpart hmem
    obtain ⟨step, own, heq, hown, hlast⟩ :=
      hunfolding.isLast_eq hmarked hpart (History.mem_stepRequests.1 hmem)
    exact ⟨own, hown, VisionRequest.step.inj heq ▸ hlast⟩
  · rintro rfl hstep
    exact hunfolding.exists_last hmarked hstep

end Engine

namespace Rehearsal

/-- An engine whose device takes a screenshot whenever it is asked to, and whose service asks to stop in
its third response. -/
def patient : Engine (List DeviceCall) :=
  engine ⟨fun _ _ => true, fun _ _ => some (.taken (.octets []) (.real .one)), { names := ["a".toList] }⟩
    "https://v/".toList fun sent => .answered 200 [] (Utf8.encode
      (if sent = 2 then "\x7b\"actions\":[\"stop\"]\x7d".toList
        else "\x7b\"actions\":[]\x7d".toList))

/-- A script with a repeating step at its end, and a command behind it. -/
def repeatingAtEnd : List Text :=
  ["step A".toList, "end".toList, "repeating step B".toList, "end".toList, "home".toList]

/-- Its tasks. -/
def repeatingAtEndTasks : List Task :=
  [.screen { step := ⟨"A".toList, [], [], false⟩ },
    .screen { step := ⟨"B".toList, [], [], true⟩, kind := .repeating }, .home]

/-- Whether an event is a request for a step that is marked, or one that is not. -/
def marked? : Event → Option Bool
  | .posted _ _ _ (.step request) => some request.isLast
  | _ => none

end Rehearsal

namespace Engine

/-- Both rounds of a repeating step at the end of a script are marked. -/
theorem requests_mark_last_step_of_two_rounds :
    (Compilation.ofLines (fun _ => 0) 0 10 Rehearsal.repeatingAtEnd).result =
        .ok Rehearsal.repeatingAtEndTasks ∧
      (Rehearsal.patient.run Rehearsal.repeatingAtEndTasks [] Rehearsal.start).result = .ok true ∧
      (∃ (parts : List History) (history : History),
        (Rehearsal.patient.run Rehearsal.repeatingAtEndTasks [] Rehearsal.start).trace =
          history.events ∧
        history.stepRequests = History.stepRequests parts.flatten ∧
        ∀ (place : Nat) (part : History) (request : StepRequest), parts[place]? = some part →
          request ∈ part.stepRequests → ∃ own,
            Rehearsal.repeatingAtEndTasks[place]? = some (.screen own) ∧
              request.isLast =
                !(Rehearsal.repeatingAtEndTasks.drop (place + 1)).any Task.isScreen) ∧
      (Rehearsal.patient.run Rehearsal.repeatingAtEndTasks [] Rehearsal.start).trace.filterMap
          Rehearsal.marked? = [false, true, true] := by
  have hcompiled : (Compilation.ofLines (fun _ => 0) 0 10 Rehearsal.repeatingAtEnd).result =
      .ok Rehearsal.repeatingAtEndTasks := Eq.refl _
  have hrun : (Rehearsal.patient.run Rehearsal.repeatingAtEndTasks [] Rehearsal.start).result =
      .ok true := Routine.result_of_toOption (by decide +kernel)
  obtain ⟨parts, history, -, htrace, hsteps, hplaces, -⟩ := requests_mark_last_step hcompiled hrun
  exact ⟨hcompiled, hrun, ⟨parts, history, htrace, hsteps, hplaces⟩, by decide +kernel⟩

end Engine

end ScreenScript
