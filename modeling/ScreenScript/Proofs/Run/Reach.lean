import ScreenScript.Proofs.Run.Summary

/-!
# How far a run gets

A run may break off anywhere. What it has done until then is still that of its first tasks, in order: all
but the last of these have gone well, and behind the last one nothing happens. It goes well if its tasks do,
if they can be announced, if the pauses between them can be made, and if the summary does not break off.

* `Engine.Tried` — tasks that are carried out, up to one that may fail or break off
* `Engine.executeAll_tries`, `Engine.work_tries` — all that the loop and a run do
* `Engine.executeAll_well_iff`, `Engine.work_well_iff` — when they go well
-/

namespace ScreenScript

namespace Engine

variable {δ : Type} {engine : Engine δ} {tasks : List Task} {task : Task} {script : Text}
  {s s' : Session δ} {site : Site δ} {asking events : List Event} {total done : Nat}

/-! ## The tasks that are carried out -/

/-- Tasks are carried out one after the other, and these are the events. All but the last one go well; the
last one may fail or break off, or the pause behind it may. -/
inductive Tried (engine : Engine δ) : List Task → Session δ → List Event → Prop
  | nil (s : Session δ) : Tried engine [] s []
  | last (task : Task) (s : Session δ) : Tried engine [task] s (engine.execute task s).trace
  | cons {task : Task} {tasks : List Task} {s s₁ : Session δ} {first later : List Event} :
    (engine.execute task).Yields s true s₁ first → Tried engine tasks s₁ later →
    Tried engine (task :: tasks) s (first ++ engine.taskPause ++ later)

/-- The pause behind every task can be made. -/
def CanPause (engine : Engine δ) : Prop :=
  ∃ seconds, Pause.seconds (.int engine.intervals.actionDelay) = .ok seconds

/-- What the loop does with a task that can be announced, apart from its messages. -/
theorem executeAll_cons_agrees {shown : Text} (h : task.toText = .ok shown) :
    (engine.executeAll total done (task :: tasks)).Agrees (do
      if ← engine.execute task then
        Routine.pause (.int engine.intervals.actionDelay)
        engine.executeAll total (done + 1) tasks
      else
        return false) := by
  rw [executeAll, h, Routine.ofExcept, Routine.pure_bind]
  refine (Routine.agrees_of_yields (fun _ => ⟨rfl, rfl, rfl⟩) _).trans ?_
  refine .bind (.refl _) fun went => ?_
  cases went with
  | false =>
    rw [if_neg Bool.false_ne_true, if_neg Bool.false_ne_true]
    exact Routine.agrees_of_yields (fun _ => ⟨rfl, rfl, rfl⟩) _
  | true =>
    rw [if_pos rfl, if_pos rfl]
    refine .bind (.refl _) fun _ => ?_
    intro s
    rw [Routine.bind_of_ok (a := s.context) (by rfl)]
    exact Routine.agrees_of_yields (b := ()) (fun _ => yields_saySeen.2 ⟨rfl, rfl⟩) _ s

/-- The loop carries out the first tasks, and all of them if it goes well. -/
theorem executeAll_tries (engine : Engine δ) (total done : Nat) (tasks : List Task) (s : Session δ) :
    ∃ executed, executed <+: tasks ∧
      engine.Tried executed s (engine.executeAll total done tasks s).trace ∧
      ((engine.executeAll total done tasks s).result = .ok true → executed = tasks) := by
  induction tasks generalizing done s with
  | nil => exact ⟨[], List.prefix_refl [], .nil s, fun _ => rfl⟩
  | cons task tasks ih =>
    have hone : [task] <+: task :: tasks := ⟨tasks, rfl⟩
    cases hshown : task.toText with
    | error error =>
      rw [executeAll, hshown]
      exact ⟨[], List.nil_prefix, .nil s, fun h => by cases h⟩
    | ok shown =>
      obtain ⟨hresult, -, htrace⟩ := executeAll_cons_agrees hshown s
      rw [hresult, htrace]
      cases hwent : (engine.execute task s).result with
      | error fault =>
        rw [Routine.bind_of_error hwent]
        exact ⟨[task], hone, .last task s, fun h => by cases h⟩
      | ok went =>
        rw [Routine.bind_of_ok hwent, Outcome.behind]
        cases went with
        | false =>
          refine ⟨[task], hone, ?_, fun h => by cases h⟩
          rw [if_neg Bool.false_ne_true, Routine.pure_apply, List.append_nil]
          exact .last task s
        | true =>
          rw [if_pos rfl]
          cases hpause : Pause.seconds (.int engine.intervals.actionDelay) with
          | error error =>
            rw [Routine.bind_of_error (congrArg Outcome.result (Routine.pause_of_error hpause _)),
              Routine.pause_of_error hpause, List.append_nil]
            exact ⟨[task], hone, .last task s, fun h => by cases h⟩
          | ok seconds =>
            have hpauses : (Routine.pause (.int engine.intervals.actionDelay)).Yields
                (engine.execute task s).state () (engine.execute task s).state engine.taskPause :=
              Routine.yields_pause.2 ⟨⟨seconds, hpause⟩, rfl, rfl⟩
            obtain ⟨executed, hprefix, htried, hall⟩ := ih (done + 1) (engine.execute task s).state
            rw [Routine.bind_of_ok hpauses.result, Outcome.behind, hpauses.state, hpauses.trace,
              ← List.append_assoc]
            exact ⟨task :: executed, List.cons_prefix_cons.2 ⟨rfl, hprefix⟩,
              .cons (Routine.yields_of_result hwent) htried, fun h => congrArg (task :: ·) (hall h)⟩

/-! ## When the loop goes well -/

/-- The loop goes well if its first task can be announced and goes well, the pause behind that can be made,
and the loop goes well behind the pause. -/
theorem executeAll_cons_well_iff :
    (engine.executeAll total done (task :: tasks)).Yields s true s' events ↔
      (∃ shown, task.toText = .ok shown) ∧ engine.CanPause ∧
        ∃ s₁ first later, (engine.execute task).Yields s true s₁ first ∧
          (engine.executeAll total (done + 1) tasks).Yields s₁ true s' later ∧
          events = first ++ engine.taskPause ++ later := by
  cases hshown : task.toText with
  | error error =>
    rw [executeAll, hshown]
    constructor
    · intro h
      cases h.result
    · rintro ⟨⟨shown, h⟩, -⟩
      cases h
  | ok shown =>
    rw [(executeAll_cons_agrees hshown).yields_iff, Routine.yields_bind]
    constructor
    · rintro ⟨went, s₁, first, behind, hwent, h, rfl⟩
      cases went with
      | false =>
        rw [if_neg Bool.false_ne_true] at h
        cases h.result
      | true =>
        rw [if_pos rfl, Routine.yields_bind] at h
        obtain ⟨u, s₂, pausing, later, hpause, hrest, rfl⟩ := h
        obtain ⟨hcan, rfl, rfl⟩ := Routine.yields_pause.1 hpause
        exact ⟨⟨shown, rfl⟩, hcan, _, _, _, hwent, hrest, (List.append_assoc ..).symm⟩
    · rintro ⟨-, hcan, s₁, first, later, hwent, hrest, rfl⟩
      refine ⟨true, s₁, first, engine.taskPause ++ later, hwent, ?_, List.append_assoc ..⟩
      rw [if_pos rfl, Routine.yields_bind]
      exact ⟨(), s₁, engine.taskPause, later, Routine.yields_pause.2 ⟨hcan, rfl, rfl⟩, hrest, rfl⟩

/-- The loop goes well if its tasks do, one after the other, and can be announced, and the pauses behind
them can be made. -/
theorem executeAll_well_iff :
    (engine.executeAll total done tasks).Yields s true s' events ↔
      engine.Chain tasks s s' events ∧ (∀ task ∈ tasks, ∃ shown, task.toText = .ok shown) ∧
        (tasks = [] ∨ engine.CanPause) := by
  induction tasks generalizing done s events with
  | nil =>
    rw [executeAll, Routine.yields_pure]
    constructor
    · rintro ⟨-, rfl, rfl⟩
      exact ⟨.nil _, List.forall_mem_nil _, .inl rfl⟩
    · rintro ⟨hchain, -⟩
      cases hchain
      exact ⟨rfl, rfl, rfl⟩
  | cons task tasks ih =>
    rw [executeAll_cons_well_iff]
    constructor
    · rintro ⟨hshown, hcan, s₁, first, later, hwent, hrest, rfl⟩
      obtain ⟨hchain, htexts, -⟩ := ih.1 hrest
      exact ⟨.cons hwent hchain, List.forall_mem_cons.2 ⟨hshown, htexts⟩, .inr hcan⟩
    · rintro ⟨hchain, htexts, hcan⟩
      obtain ⟨hshown, htexts⟩ := List.forall_mem_cons.1 htexts
      have hcan : engine.CanPause := hcan.resolve_left (List.cons_ne_nil task tasks)
      cases hchain with
      | cons hwent hchain =>
        exact ⟨hshown, hcan, _, _, _, hwent, ih.2 ⟨hchain, htexts, .inr hcan⟩, rfl⟩

/-! ## The run -/

/-- A run on a device that is not there ends at once. -/
theorem run_absent (hasking : engine.device.isConnected.Yields s.site false site asking) :
    (engine.run tasks script).Yields s false { s with site } asking := by
  rw [run, Session.yields_onSite_bind]
  refine ⟨false, site, asking, [], hasking, ?_, (List.append_nil _).symm⟩
  rw [if_neg Bool.false_ne_true, yields_say_bind, Routine.yields_pure]
  exact ⟨rfl, rfl, rfl⟩

/-- What a run does on a device that is there, apart from its messages. -/
def work (engine : Engine δ) (tasks : List Task) (script : Text) : Routine (Session δ) Bool := do
  if ← engine.loop tasks then
    engine.summarize script
    return true
  else
    return false

/-- On a device that is there, a run does its work. -/
theorem run_present (hasking : engine.device.isConnected.Yields s.site true site asking) :
    (engine.run tasks script s).result = (engine.work tasks script { s with site }).result ∧
      (engine.run tasks script s).trace = asking ++ (engine.work tasks script { s with site }).trace := by
  have honSite := Session.yields_onSite.2 ⟨site, hasking, rfl⟩
  have hwork : (do
      say .info "开始执行脚本...".toList
      if ← engine.executeAll tasks.length 0 tasks then do
        engine.summarize script
        say .info "脚本执行完成".toList
        return true
      else
        return false : Routine (Session δ) Bool).Agrees (engine.work tasks script) := by
    refine (Routine.agrees_of_yields (b := ()) (fun _ => ⟨rfl, rfl, rfl⟩) _).trans ?_
    refine .bind (.refl _) fun went => ?_
    cases went with
    | false => exact .refl _
    | true => exact .bind (.refl _) fun _ => Routine.agrees_of_yields (b := ()) (fun _ => ⟨rfl, rfl, rfl⟩) _
  obtain ⟨hresult, -, htrace⟩ := hwork { s with site }
  rw [run, honSite.result_bind, honSite.trace_bind, if_pos rfl]
  exact ⟨hresult, congrArg (asking ++ ·) htrace⟩

/-- To sum a run up does what the request for that does, also if it breaks off. -/
theorem trace_summarize (engine : Engine δ) (script : Text) (s : Session δ) :
    (engine.summarize script s).trace =
      engine.service.exchange (.summary script s.context.joined) := by
  have hcontext : (Session.getContext : Routine (Session δ) RunContext).Yields s s.context s [] :=
    ⟨rfl, rfl, rfl⟩
  obtain ⟨hsent, htrace⟩ := engine.service.summarize_effect script s.context.joined s.sent
  have hrequest : (Session.onService (engine.service.summarize script s.context.joined) s).trace =
      engine.service.exchange (.summary script s.context.joined) := htrace
  refine (Routine.effect_behind hcontext (Routine.effect_bind ⟨rfl, ?_⟩ fun answer => ?_)).2
  · exact (Routine.trace_attempt _ _ _).trans hrequest
  · cases answer with
    | error fault => exact Routine.silent_say
    | ok summary => exact Routine.silent_bind Routine.silent_say fun _ => Routine.silent_say

/-- The work of a run is to carry out the first tasks, and behind all of them it may have itself summed
up. -/
theorem work_tries (engine : Engine δ) (tasks : List Task) (script : Text) (s : Session δ) :
    ∃ executed acting last, executed <+: tasks ∧ engine.Tried executed s acting ∧
      (engine.work tasks script s).trace = acting ++ last ∧
      (last = [] ∨ executed = tasks ∧ ∃ context, last = engine.service.exchange (.summary script context)) := by
  obtain ⟨executed, hprefix, htried, hall⟩ := executeAll_tries engine tasks.length 0 tasks s
  rw [← loop] at htried hall
  refine ⟨executed, (engine.loop tasks s).trace, ?_⟩
  rw [work]
  cases hloop : (engine.loop tasks s).result with
  | error fault =>
    rw [Routine.bind_of_error hloop]
    exact ⟨[], hprefix, htried, (List.append_nil _).symm, .inl rfl⟩
  | ok went =>
    rw [Routine.bind_of_ok hloop]
    cases went with
    | false => exact ⟨[], hprefix, htried, rfl, .inl rfl⟩
    | true =>
      refine ⟨_, hprefix, htried, rfl, .inr ⟨hall hloop, (engine.loop tasks s).state.context.joined, ?_⟩⟩
      rw [if_pos rfl, ← trace_summarize]
      exact (Routine.effect_bind ⟨rfl, rfl⟩ fun _ => Routine.silent_pure).2

/-- The work of a run goes well if its tasks do, can be announced and have pauses behind them that can be
made, and if nothing breaks off when the service is asked to sum the run up. -/
theorem work_well_iff :
    (engine.work tasks script s).result = .ok true ↔
      ∃ s' events, engine.Chain tasks s s' events ∧
        (∀ task ∈ tasks, ∃ shown, task.toText = .ok shown) ∧ (tasks = [] ∨ engine.CanPause) ∧
        (engine.summarize script s').result = .ok () := by
  constructor
  · intro h
    obtain ⟨went, hloop, hrest, -⟩ := Routine.bind_ok h
    cases went with
    | false => cases hrest
    | true =>
      rw [if_pos rfl] at hrest
      obtain ⟨u, hsummary, -⟩ := Routine.bind_ok hrest
      obtain ⟨hchain, htexts, hcan⟩ := executeAll_well_iff.1 (Routine.yields_of_result hloop)
      exact ⟨_, _, hchain, htexts, hcan, hsummary⟩
  · rintro ⟨s', events, hchain, htexts, hcan, hsummary⟩
    have hloop : (engine.loop tasks).Yields s true s' events :=
      executeAll_well_iff.2 ⟨hchain, htexts, hcan⟩
    rw [work, hloop.result_bind, if_pos rfl, Routine.bind_of_ok hsummary]
    rfl

end Engine

end ScreenScript
