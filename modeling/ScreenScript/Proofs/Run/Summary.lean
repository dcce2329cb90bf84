import ScreenScript.Proofs.Run.Course
import ScreenScript.Proofs.Vision.Loss

/-!
# What the summary may do to a run

When every task has gone well, the service is asked to sum the run up. That it cannot be reached, refuses
or answers something malformed does no harm. But a request may also be lost for a reason that is not the
service's, a key that is not ASCII for example, and then the run breaks off although every task went well.

* `Engine.result_run_of_loop` — the result of a run whose tasks go well
* `Engine.summary_breaks_run_iff` — when such a run breaks off, and with which fault
* `Engine.summary_may_break_run` — it may happen
-/

namespace ScreenScript

namespace Engine

variable {δ : Type} {engine : Engine δ} {tasks : List Task} {script : Text} {s s₁ : Session δ}
  {site : Site δ} {asking events : List Event} {fault : Fault}

/-- To sum a run up breaks off just with the faults that are not those of the service. -/
theorem result_summarize_iff :
    (engine.summarize script s).result = .error fault ↔
      (engine.service.summarize script s.context.joined s.sent).result = .error fault ∧
        serviceFault fault = none := by
  have hcontext : (Session.getContext : Routine (Session δ) RunContext).Yields s s.context s [] :=
    ⟨rfl, rfl, rfl⟩
  rw [summarize, hcontext.result_bind]
  cases hsummary : (engine.service.summarize script s.context.joined s.sent).result with
  | ok summary =>
    have hpart : (Session.onService (engine.service.summarize script s.context.joined) s).result =
        .ok summary := hsummary
    rw [Routine.bind_of_ok (Routine.result_attempt_of_ok hpart)]
    constructor
    · intro h
      cases h
    · rintro ⟨h, -⟩
      cases h
  | error fault' =>
    have hpart : (Session.onService (engine.service.summarize script s.context.joined) s).result =
        .error fault' := hsummary
    cases hcaught : serviceFault fault' with
    | some caught =>
      rw [Routine.bind_of_ok (Routine.result_attempt_of_caught hpart hcaught)]
      constructor
      · intro h
        cases h
      · rintro ⟨h, hstray⟩
        obtain rfl := Except.error.inj h
        rw [hstray] at hcaught
        cases hcaught
    | none =>
      rw [Routine.bind_of_error (Routine.result_attempt_of_uncaught hpart hcaught), Except.error.injEq,
        Except.error.injEq]
      exact ⟨fun h => ⟨h, h ▸ hcaught⟩, And.left⟩

/-- A run whose tasks go well has the result `true` unless its summary breaks off. -/
theorem result_run_of_loop (hasking : engine.device.isConnected.Yields s.site true site asking)
    (hloop : (engine.loop tasks).Yields { s with site } true s₁ events) :
    (engine.run tasks script s).result =
      (engine.summarize script s₁).result.map fun _ => true := by
  have honSite := Session.yields_onSite.2 ⟨site, hasking, rfl⟩
  have hsay : (say .info "开始执行脚本...".toList : Routine (Session δ) Unit).Yields { s with site } ()
      { s with site } [] := ⟨rfl, rfl, rfl⟩
  rw [loop] at hloop
  rw [run, honSite.result_bind, if_pos rfl, hsay.result_bind, hloop.result_bind, if_pos rfl]
  cases hsummary : (engine.summarize script s₁).result with
  | error fault => rw [Routine.bind_of_error hsummary]; rfl
  | ok u =>
    rw [Routine.bind_of_ok hsummary]
    rfl

/-- **What the summary may do to a run.** Whatever library sends its requests, a run on a device that is there,
all of whose tasks go well, breaks off just with the faults for which its request for a summary is lost. In every
other case its result is `true`, whatever the service has answered. If the library takes keys in ASCII only, as it is
documented, and the address of the service is known, then any other key breaks such a run off. -/
theorem summary_breaks_run_iff (hasking : engine.device.isConnected.Yields s.site true site asking)
    (hloop : (engine.loop tasks).Yields { s with site } true s₁ events) :
    (∀ fault, (engine.run tasks script s).result = .error fault ↔
      engine.service.Lost (.summary script s₁.context.joined) (engine.service.deliveries s₁.sent) fault) ∧
    ((engine.run tasks script s).result = .ok true ↔
      ∀ fault, ¬engine.service.Lost (.summary script s₁.context.joined)
        (engine.service.deliveries s₁.sent) fault) ∧
    (engine.service.web.AsciiOnly → engine.service.url ≠ [] →
      ¬(engine.service.apiKey.isAscii = true ∧ engine.service.clientKey.isAscii = true) →
      ∃ fault, (engine.run tasks script s).result = .error fault) := by
  have hbreaks (fault : Fault) : (engine.run tasks script s).result = .error fault ↔
      engine.service.Lost (.summary script s₁.context.joined) (engine.service.deliveries s₁.sent) fault := by
    rw [VisionService.lost_iff_summarize, ← result_summarize_iff, result_run_of_loop hasking hloop]
    cases (engine.summarize script s₁).result with
    | ok u => exact ⟨nofun, nofun⟩
    | error fault' =>
      exact ⟨fun h => congrArg Except.error (Except.error.inj h),
        fun h => congrArg Except.error (Except.error.inj h)⟩
  refine ⟨hbreaks, ?_, fun hlibrary hurl hkeys => ?_⟩
  · simp only [← hbreaks]
    rw [result_run_of_loop hasking hloop]
    cases (engine.summarize script s₁).result with
    | ok u => exact ⟨fun _ fault => nofun, fun _ => rfl⟩
    | error fault' => exact ⟨nofun, fun h => absurd rfl (h fault')⟩
  · obtain ⟨fault, hunsendable⟩ := VisionService.unsendable_of_not_ascii hlibrary hurl hkeys
    exact ⟨fault, (hbreaks fault).2 (.unsent hunsendable)⟩

end Engine

namespace Rehearsal

/-- An engine whose device does everything, whose key is `key`, and whose service refuses everything. -/
def refused (key : Text) : Engine (List DeviceCall) :=
  { engine ⟨fun _ _ => true, fun _ _ => none, {}⟩ "https://v/".toList fun _ => .answered 500 [] [] with
    service.apiKey := key }

end Rehearsal

namespace Engine

/-- A run is not broken off by a service that refuses to sum it up, but by a key that is not ASCII. -/
theorem summary_breaks_run_iff_of_refused :
    ((Rehearsal.refused "k".toList).run [.home] [] Rehearsal.start).result = .ok true ∧
      (∀ fault, ¬(Rehearsal.refused "k".toList).service.Lost (.summary [] []) (.answered 500 [] []) fault) ∧
      ∃ fault, ((Rehearsal.refused "clé".toList).run [.home] [] Rehearsal.start).result = .error fault := by
  have hrun : ((Rehearsal.refused "k".toList).run [.home] [] Rehearsal.start).result = .ok true :=
    Routine.result_of_toOption (by decide +kernel)
  exact ⟨hrun, (summary_breaks_run_iff ⟨rfl, rfl, rfl⟩ ⟨rfl, rfl, rfl⟩).2.1.1 hrun,
    (summary_breaks_run_iff ⟨rfl, rfl, rfl⟩ ⟨rfl, rfl, rfl⟩).2.2 WebLibrary.asciiOnly_plain (by decide)
      (by decide)⟩

/-- A key that is not ASCII breaks a run off all of whose tasks have gone well. -/
theorem summary_may_break_run :
    ¬∀ (engine : Engine (List DeviceCall)) (tasks : List Task) (script : Text)
      (s s₁ : Session (List DeviceCall)) (site : Site (List DeviceCall)) (asking events : List Event),
      engine.device.isConnected.Yields s.site true site asking →
      (engine.loop tasks).Yields { s with site } true s₁ events →
      (engine.run tasks script s).result = .ok true := by
  intro h
  have hrun := h (Rehearsal.refused "clé".toList) [.home] [] Rehearsal.start _ _ _ _
    ⟨rfl, rfl, rfl⟩ ⟨rfl, rfl, rfl⟩
  have hnone : ((Rehearsal.refused "clé".toList).run [.home] [] Rehearsal.start).result.toOption =
      none := by decide +kernel
  rw [hrun] at hnone
  cases hnone

end Engine

end ScreenScript
