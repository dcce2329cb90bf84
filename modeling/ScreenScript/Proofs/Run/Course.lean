import ScreenScript.Device.Rehearsed
import ScreenScript.Proofs.Run.Session
import ScreenScript.Proofs.Vision.Exchange

/-!
# The course of a run

A run asks once whether the device is there and carries out its tasks in order, with a pause behind each.
The first task that fails ends it; nothing happens behind that. If none fails, the service is asked to
sum the run up.

* `Engine.Chain` — tasks that go well one after the other
* `Engine.Course` — the three ways in which a run can end, and all that happens in each
* `Engine.run_course` — every run takes one of them
-/

namespace ScreenScript

namespace Engine

variable {δ : Type} {engine : Engine δ} {script : Text}

/-! ## The parts of a run -/

/-- The pause behind every task: none if it would not last. -/
def taskPause (engine : Engine δ) : List Event := Routine.pauseEvents (.int engine.intervals.actionDelay)

/-- Tasks that go well one after the other, each followed by a pause and each carried out where the one
before it has left. -/
inductive Chain (engine : Engine δ) : List Task → Session δ → Session δ → List Event → Prop
  | nil (s : Session δ) : Chain engine [] s s []
  | cons {task : Task} {tasks : List Task} {s s₁ s₂ : Session δ} {first later : List Event} :
    (engine.execute task).Yields s true s₁ first → Chain engine tasks s₁ s₂ later →
    Chain engine (task :: tasks) s s₂ (first ++ engine.taskPause ++ later)

/-- What the request to sum a run up does, where the run has left. Nothing is sent if the address of the
service is not known. -/
def SumsUp (engine : Engine δ) (script : Text) (s : Session δ) (events : List Event) : Prop :=
  if engine.service.url = [] then
    events = []
  else
    ∃ address, engine.service.destination (.summary script s.context.joined) = .ok address ∧
      events = [.posted address engine.service.apiKey engine.service.clientKey
        (.summary script s.context.joined)]

/-- The course of a run: its result, the state it leaves, and all that happens. -/
inductive Course (engine : Engine δ) (tasks : List Task) (script : Text) (s : Session δ) :
    Bool → Session δ → List Event → Prop
  /-- the device is not there, and nothing happens behind the question -/
  | absent {site : Site δ} {asking : List Event} :
    engine.device.isConnected.Yields s.site false site asking →
    Course engine tasks script s false { s with site } asking
  /-- a task fails, and nothing happens behind it -/
  | failed {done rest : List Task} {task : Task} {site : Site δ} {s₁ s₂ : Session δ}
    {asking before failing : List Event} :
    engine.device.isConnected.Yields s.site true site asking →
    tasks = done ++ task :: rest → engine.Chain done { s with site } s₁ before →
    (engine.execute task).Yields s₁ false s₂ failing →
    Course engine tasks script s false s₂ (asking ++ before ++ failing)
  /-- every task goes well, and the service is asked to sum the run up -/
  | finished {site : Site δ} {s₁ : Session δ} {asking all last : List Event} :
    engine.device.isConnected.Yields s.site true site asking →
    engine.Chain tasks { s with site } s₁ all → engine.SumsUp script s₁ last →
    Course engine tasks script s true { s₁ with sent := s₁.sent + last.length }
      (asking ++ all ++ last)

/-! ## The loop over the tasks -/

/-- What the loop does with the first task. -/
theorem executeAll_cons_yields {total done : Nat} {task : Task} {tasks : List Task}
    {s s' : Session δ} {ok : Bool} {events : List Event}
    (h : (engine.executeAll total done (task :: tasks)).Yields s ok s' events) :
    ((engine.execute task).Yields s false s' events ∧ ok = false) ∨
      ∃ s₁ first later, (engine.execute task).Yields s true s₁ first ∧
        (engine.executeAll total (done + 1) tasks).Yields s₁ ok s' later ∧
        events = first ++ engine.taskPause ++ later := by
  rw [executeAll] at h
  obtain ⟨shown, h⟩ := Routine.silent_ofExcept.of_bind h
  rw [yields_say_bind, Routine.yields_bind] at h
  obtain ⟨went, s₁, first, later, hwent, h, rfl⟩ := h
  cases went with
  | true =>
    rw [if_pos rfl] at h
    obtain ⟨later, hlater, rfl⟩ := Routine.pause_bind_yields h
    rw [Session.yields_getContext_bind] at hlater
    obtain ⟨u, hrest⟩ := (silent_saySeen _).of_bind hlater
    exact .inr ⟨s₁, first, later, hwent, hrest, (List.append_assoc ..).symm⟩
  | false =>
    rw [if_neg Bool.false_ne_true, yields_say_bind, Routine.yields_pure] at h
    obtain ⟨rfl, rfl, rfl⟩ := h
    rw [List.append_nil]
    exact .inl ⟨hwent, rfl⟩

/-- The loop takes every task, or it stops at one that fails. -/
theorem executeAll_yields {total done : Nat} {tasks : List Task} {s s' : Session δ} {ok : Bool}
    {events : List Event} (h : (engine.executeAll total done tasks).Yields s ok s' events) :
    (ok = true ∧ engine.Chain tasks s s' events) ∨
      (ok = false ∧ ∃ well task rest s₁ before failing, tasks = well ++ task :: rest ∧
        engine.Chain well s s₁ before ∧ (engine.execute task).Yields s₁ false s' failing ∧
        events = before ++ failing) := by
  -- by the tasks: the first one fails, or the loop goes on where it and the pause behind it have left
  induction tasks generalizing done s events with
  | nil =>
    rw [executeAll, Routine.yields_pure] at h
    obtain ⟨rfl, rfl, rfl⟩ := h
    exact .inl ⟨rfl, .nil _⟩
  | cons task tasks ih =>
    rcases executeAll_cons_yields h with ⟨hfails, rfl⟩ | ⟨s₁, first, later, hwell, hrest, rfl⟩
    · exact .inr ⟨rfl, [], task, tasks, s, [], events, rfl, .nil s, hfails, rfl⟩
    · rcases ih hrest with ⟨rfl, hchain⟩ | ⟨rfl, well, last, rest, s₂, before, failing, rfl, hchain,
        hfails, rfl⟩
      · exact .inl ⟨rfl, .cons hwell hchain⟩
      · refine .inr ⟨rfl, task :: well, last, rest, s₂, _, failing, rfl, .cons hwell hchain, hfails, ?_⟩
        simp only [List.append_assoc]

/-- The loop over all tasks of a run. -/
def loop (engine : Engine δ) (tasks : List Task) : Routine (Session δ) Bool :=
  engine.executeAll tasks.length 0 tasks

/-- How many tasks there are, and how many were carried out before, only shows in messages. -/
theorem executeAll_agrees (total total' done done' : Nat) (tasks : List Task) :
    (engine.executeAll total done tasks).Agrees (engine.executeAll total' done' tasks) := by
  induction tasks generalizing done done' with
  | nil => exact .refl _
  | cons task tasks ih =>
    rw [executeAll, executeAll]
    refine .bind (.refl _) fun shown => ?_
    refine .bind Routine.agrees_say fun _ => ?_
    refine .bind (.refl _) fun went => ?_
    -- the branch is chosen first, or else the two loops are unfolded to compare them
    cases went with
    | true =>
      rw [if_pos rfl, if_pos rfl]
      refine .bind (.refl _) fun _ => ?_
      refine .bind (.refl _) fun _ => ?_
      refine .bind (.refl _) fun _ => ?_
      exact ih _ _
    | false => rw [if_neg Bool.false_ne_true, if_neg Bool.false_ne_true]

/-- A loop over more tasks goes on behind a loop that went well. -/
theorem executeAll_append (total done : Nat) (xs ys : List Task) :
    engine.executeAll total done (xs ++ ys) = (do
      if ← engine.executeAll total done xs then
        engine.executeAll total (done + xs.length) ys
      else
        return false) := by
  induction xs generalizing done with
  | nil =>
    rw [executeAll, Routine.pure_bind]
    rfl
  | cons task xs ih =>
    rw [List.cons_append, executeAll, executeAll, Routine.bind_assoc]
    refine bind_congr fun shown => ?_
    rw [Routine.bind_assoc]
    refine bind_congr fun _ => ?_
    rw [Routine.bind_assoc]
    refine bind_congr fun went => ?_
    cases went with
    | true =>
      simp only [if_true, Routine.bind_assoc]
      refine bind_congr fun _ => bind_congr fun _ => bind_congr fun _ => ?_
      rw [ih, List.length_cons, Nat.add_assoc, Nat.add_comm 1]
    | false => rfl

/-! ## The end of a run -/

/-- What the request does if its fault, when it has one, is one that the run survives. -/
theorem sumsUp_exchange {s : Session δ}
    (h : ∀ fault, (engine.service.summarize script s.context.joined s.sent).result = .error fault →
      (serviceFault fault).isSome) :
    engine.SumsUp script s (engine.service.exchange (.summary script s.context.joined)) := by
  rw [SumsUp]
  split
  · next hurl => exact VisionService.exchange_of_unconfigured hurl
  · next hurl =>
    rw [VisionService.exchange]
    cases hd : engine.service.destination (.summary script s.context.joined) with
    | ok address => exact ⟨address, rfl, rfl⟩
    | error fault =>
      -- a fault that the run survives would be the lack of an address
      have hcaught := h fault (VisionService.summarize_of_refused hd)
      cases fault with
      | vision fault => exact absurd (VisionService.url_of_destination hd) hurl
      | _ => cases hcaught

/-- Asking to sum a run up does what the request does. -/
theorem SumsUp.eq_exchange {s : Session δ} {events : List Event} (h : engine.SumsUp script s events) :
    events = engine.service.exchange (.summary script s.context.joined) := by
  rw [SumsUp] at h
  split at h
  · next hurl => rw [h, VisionService.exchange_of_unconfigured hurl]
  · obtain ⟨address, hd, rfl⟩ := h
    rw [VisionService.exchange, hd]

theorem summarize_yields {s s' : Session δ} {u : Unit} {events : List Event}
    (h : (engine.summarize script).Yields s u s' events) :
    s' = { s with sent := s.sent + events.length } ∧ engine.SumsUp script s events := by
  rw [summarize, Session.yields_getContext_bind, Routine.yields_bind] at h
  obtain ⟨answer, s₁, asking, later, hanswer, h, rfl⟩ := h
  obtain ⟨hresult, rfl, rfl⟩ := Session.attempt_yields hanswer
  obtain ⟨hsent, htrace⟩ := engine.service.summarize_effect script s.context.joined s.sent
  rw [htrace]
  rw [hsent] at h
  rcases hresult with ⟨summary, rfl, hresult⟩ | ⟨fault, b, rfl, hresult, hcaught⟩
  · rw [yields_say_bind] at h
    obtain ⟨rfl, rfl⟩ := Routine.yields_say.1 h
    rw [List.append_nil]
    refine ⟨rfl, sumsUp_exchange fun fault hfault => ?_⟩
    rw [hresult] at hfault
    cases hfault
  · obtain ⟨rfl, rfl⟩ := Routine.yields_say.1 h
    rw [List.append_nil]
    refine ⟨rfl, sumsUp_exchange fun fault' hfault => ?_⟩
    rw [hresult] at hfault
    cases hfault
    rw [hcaught, Option.isSome_some]

/-- A run that returns takes its course. -/
theorem course_of_run {tasks : List Task} {s s' : Session δ} {ok : Bool} {events : List Event}
    (h : (engine.run tasks script).Yields s ok s' events) :
    engine.Course tasks script s ok s' events := by
  rw [run, Session.yields_onSite_bind] at h
  obtain ⟨connected, site, asking, later, hasking, h, rfl⟩ := h
  cases connected with
  | false =>
    rw [if_neg Bool.false_ne_true, yields_say_bind, Routine.yields_pure] at h
    obtain ⟨rfl, rfl, rfl⟩ := h
    rw [List.append_nil]
    exact .absent hasking
  | true =>
    rw [if_pos rfl, yields_say_bind, Routine.yields_bind] at h
    obtain ⟨went, s₁, all, later, hloop, h, rfl⟩ := h
    rw [← List.append_assoc]
    rcases executeAll_yields hloop with ⟨rfl, hchain⟩ | ⟨rfl, well, task, rest, s₂, before, failing,
      htasks, hchain, hfails, rfl⟩
    · rw [if_pos rfl, Routine.yields_bind] at h
      obtain ⟨u, s₂, last, later, hsum, h, rfl⟩ := h
      obtain ⟨rfl, hlast⟩ := summarize_yields hsum
      rw [yields_say_bind, Routine.yields_pure] at h
      obtain ⟨rfl, rfl, rfl⟩ := h
      rw [List.append_nil]
      exact .finished hasking hchain hlast
    · rw [if_neg Bool.false_ne_true, Routine.yields_pure] at h
      obtain ⟨rfl, rfl, rfl⟩ := h
      rw [List.append_nil, ← List.append_assoc]
      exact .failed hasking htasks hchain hfails

/-! ## The question for the device -/

/-- The engine with another question for whether the device is there. -/
def asking (engine : Engine δ) (query : Routine (Site δ) Bool) : Engine δ :=
  { engine with device := { engine.device with isConnected := query } }

variable {query : Routine (Site δ) Bool}

theorem performAll_asking (context : RunContext) (actions : List Text) :
    ((engine.asking query).interpreter context).performAll actions =
      (engine.interpreter context).performAll actions := by
  induction actions with
  | nil => rfl
  | cons action actions ih =>
    rw [Interpreter.performAll, Interpreter.performAll, ih]
    rfl

theorem processStep_asking (task : StepTask) :
    (engine.asking query).processStep task = engine.processStep task := by
  have hcarry (step : Step) (response : StepResponse) (actions : List Text) :
      (engine.asking query).carryOut step response actions =
        engine.carryOut step response actions := by
    simp only [carryOut, performAll_asking]
  have hanswer (step : Step) (response : StepResponse) :
      (engine.asking query).answer step response = engine.answer step response := by
    simp only [answer, hcarry]
  have hconsult (image : EncodedImage) :
      (engine.asking query).consult task image = engine.consult task image := by
    simp only [consult, hanswer]
    rfl
  simp only [processStep, hconsult]
  rfl

theorem repeatStep_asking (task : StepTask) (rounds done : Nat) :
    (engine.asking query).repeatStep task rounds done = engine.repeatStep task rounds done := by
  induction rounds generalizing done with
  | zero => rfl
  | succ rounds ih => simp only [repeatStep, processStep_asking, ih]

/-- No task asks whether the device is there. -/
theorem execute_asking (task : Task) : (engine.asking query).execute task = engine.execute task := by
  cases task with
  | screen task =>
    rw [execute, execute, executeStep, executeStep, repeatStep_asking, processStep_asking]
  | _ => rfl

/-! ## The run -/

/-- **The course of a run.** A run that returns takes its course: it asks for the device, carries out the
tasks up to the first one that fails with a pause behind each, and has itself summed up if none fails. The
device is not asked for again, neither by a task nor for the summary. The tasks of two lists in a row are
carried out as those of the first list and, if none of them fails, those of the second one behind them. -/
theorem run_course (engine : Engine δ) (script : Text) (s : Session δ) :
    (∀ tasks ok, (engine.run tasks script s).result = .ok ok →
      engine.Course tasks script s ok (engine.run tasks script s).state
        (engine.run tasks script s).trace) ∧
    (∀ query, (∀ task, (engine.asking query).execute task = engine.execute task) ∧
      (engine.asking query).summarize script = engine.summarize script) ∧
    ∀ xs ys, (engine.loop (xs ++ ys)).Agrees (do
      if ← engine.loop xs then engine.loop ys else return false) := by
  refine ⟨?_, ?_, ?_⟩
  · intro tasks ok h
    exact course_of_run (Routine.yields_of_result h)
  · intro query
    exact ⟨execute_asking, rfl⟩
  · intro xs ys
    rw [loop, executeAll_append, loop, loop]
    refine .bind (executeAll_agrees _ _ _ _ _) fun went => ?_
    cases went with
    | true => exact executeAll_agrees _ _ _ _ _
    | false => rfl

end Engine

/-! ## Rehearsals -/

namespace Rehearsal

/-- An engine with a rehearsed device, and with a service at `url`. -/
def engine (answers : Answers) (url : Text) (deliveries : Nat → Delivery) :
    Engine (List DeviceCall) where
  device := device answers
  service := { url, apiKey := "k".toList, clientKey := "c".toList, deliveries }
  intervals := {}

/-- An engine whose device refuses to go home, without an address of the service. -/
def refusingHome : Engine (List DeviceCall) :=
  engine ⟨fun _ => (· ≠ .home), fun _ _ => none, {}⟩ [] fun _ => .failed []

/-- Where a rehearsal starts. -/
def start : Session (List DeviceCall) := { site := ⟨{}, []⟩ }

end Rehearsal

namespace Engine

/-- The course of a run on a device that refuses to go home: the third task is not carried out. -/
theorem run_course_of_refused_home :
    (Rehearsal.refusingHome.run [.back, .home, .recentApps] [] Rehearsal.start).result = .ok false ∧
      Rehearsal.refusingHome.Course [.back, .home, .recentApps] [] Rehearsal.start false
        (Rehearsal.refusingHome.run [.back, .home, .recentApps] [] Rehearsal.start).state
        (Rehearsal.refusingHome.run [.back, .home, .recentApps] [] Rehearsal.start).trace ∧
      (Rehearsal.refusingHome.run [.back, .home, .recentApps] [] Rehearsal.start).trace =
        [.called .connected, .called .back, .slept (.int 1000), .slept (.int 1000), .called .home,
          .slept (.int 500)] :=
  ⟨Eq.refl _, (run_course Rehearsal.refusingHome [] Rehearsal.start).1 _ _ (Eq.refl _), Eq.refl _⟩

/-- Without an address of the service, a run that goes well is not summed up. -/
theorem not_always_summed_up :
    ¬ ∀ (engine : Engine (List DeviceCall)) (tasks : List Task) (script : Text)
      (s : Session (List DeviceCall)), (engine.run tasks script s).result = .ok true →
      ∃ url apiKey clientKey context, .posted url apiKey clientKey (.summary script context) ∈
        (engine.run tasks script s).trace := by
  intro h
  obtain ⟨url, apiKey, clientKey, context, hmem⟩ :=
    h Rehearsal.refusingHome [] [] Rehearsal.start (Eq.refl _)
  have htrace : (Rehearsal.refusingHome.run [] [] Rehearsal.start).trace = [.called .connected] :=
    Eq.refl _
  rw [htrace, List.mem_singleton] at hmem
  cases hmem

end Engine

end ScreenScript
