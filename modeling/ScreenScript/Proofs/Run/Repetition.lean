import ScreenScript.Proofs.Run.Acceptance
import ScreenScript.Proofs.Run.Memory

/-!
# The rounds of a repeating step

A repeating step is processed again and again: up to the first time that there is no result or that the
service asks to stop, and no more often than it may be. It goes well if the last result asks to stop, and
then all actions of this result have been carried out, also those behind the one to stop.

* `StepResponse.Ends` — the results behind which there is no further round
* `Engine.Repetition` — a repeating step that is carried out, with the result of each round
* `Engine.repetition_of_yields` — this is how every repeating step is carried out
-/

namespace ScreenScript

/-! ## Results -/

/-- One of the actions says `stop`, in whatever letter case and wherever in it. -/
def StepResponse.AsksToStop (response : StepResponse) : Prop :=
  ∃ action ∈ response.actions.getD [], stopMark <:+: action.lower

theorem StepResponse.hasStop_iff {response : StepResponse} :
    hasStop (response.actions.getD []) = true ↔ response.AsksToStop := by
  simp [hasStop, AsksToStop, Text.contains_iff]

/-- Behind this result, a repeating step is not processed again: there is none, or it asks to stop. -/
def StepResponse.Ends (result : Option StepResponse) : Prop :=
  ∀ response, result = some response → response.AsksToStop

theorem StepResponse.ends_none : Ends none := nofun

namespace Engine

variable {δ : Type}

/-! ## Rounds -/

/-- A step that is processed several times in a row, with the result of each time. -/
inductive Processed (engine : Engine δ) (task : StepTask) :
    List (Option StepResponse) → Session δ → Session δ → List Event → Prop
  | nil (s : Session δ) : Processed engine task [] s s []
  | cons {result : Option StepResponse} {results : List (Option StepResponse)} {s s₁ s' : Session δ}
    {first later : List Event} :
    (engine.processStep task).Yields s result s₁ first → Processed engine task results s₁ s' later →
    Processed engine task (result :: results) s s' (first ++ later)

/-- A repeating step that is carried out in at most `rounds` rounds, with the results of these. -/
structure Repetition (engine : Engine δ) (task : StepTask) (rounds : Nat) (s : Session δ) (ok : Bool)
    (s' : Session δ) (events : List Event) (results : List (Option StepResponse)) : Prop where
  /-- the step is processed once for each result, and nothing else happens -/
  processed : engine.Processed task results s s' events
  /-- there are no more results than rounds -/
  within : results.length ≤ rounds
  /-- no result stands behind one that ends the step -/
  first : ∀ earlier result later, results = earlier ++ result :: later → StepResponse.Ends result →
    later = []
  /-- there are as many results as rounds if none ends the step -/
  all : (∀ result ∈ results, ¬StepResponse.Ends result) → results.length = rounds
  /-- the step goes well if the last result asks to stop, and only then -/
  well : ok = true ↔
    ∃ response, results.getLast? = some (some response) ∧ response.AsksToStop
  /-- all actions of this result are carried out in the end, wherever among them the one to stop is -/
  acted : ok = true → ∃ response actions errors site before acting,
    results.getLast? = some (some response) ∧ response.actions = some actions ∧
      ((engine.interpreter s'.context).performAll actions).Yields site errors s'.site acting ∧
      events = before ++ acting

variable {engine : Engine δ} {s s₁ s' : Session δ}

/-- What a round does: the step is processed, and either that is the end or there is another round. -/
theorem repeatStep_succ_yields {task : StepTask} {rounds done : Nat} {ok : Bool} {events : List Event}
    (h : (engine.repeatStep task (rounds + 1) done).Yields s ok s' events) :
    ∃ result, ((engine.processStep task).Yields s result s' events ∧ StepResponse.Ends result ∧
        ok = result.isSome) ∨
      (¬StepResponse.Ends result ∧ ∃ s₁ first later, (engine.processStep task).Yields s result s₁ first ∧
        (engine.repeatStep task rounds (done + 1)).Yields s₁ ok s' later ∧ events = first ++ later) := by
  rw [repeatStep, Routine.yields_bind] at h
  obtain ⟨result, s₁, first, later, hstep, h, rfl⟩ := h
  refine ⟨result, ?_⟩
  cases result with
  | none =>
    obtain ⟨rfl, rfl, rfl⟩ := Routine.yields_pure.1 h
    rw [List.append_nil]
    exact .inl ⟨hstep, StepResponse.ends_none, rfl⟩
  | some response =>
    dsimp only at h
    split at h
    · next hstop =>
      rw [yields_say_bind, Routine.yields_pure] at h
      obtain ⟨rfl, rfl, rfl⟩ := h
      rw [List.append_nil]
      refine .inl ⟨hstep, fun other hother => ?_, rfl⟩
      rw [← Option.some.inj hother]
      exact StepResponse.hasStop_iff.1 hstop
    · next hstop =>
      refine .inr ⟨fun hends => hstop ?_, s₁, first, later, hstep, h, rfl⟩
      exact StepResponse.hasStop_iff.2 (hends response rfl)

/-- The actions of a result are the last thing that happens when a step is processed. -/
theorem processStep_acts {task : StepTask} {response : StepResponse} {events : List Event}
    (h : (engine.processStep task).Yields s (some response) s' events) :
    ∃ actions errors site before acting, response.actions = some actions ∧
      ((engine.interpreter s'.context).performAll actions).Yields site errors s'.site acting ∧
      events = before ++ acting := by
  obtain ⟨history, hprocessing, rfl⟩ := processing_of_yields h
  obtain ⟨screenshot, site, shooting, answer, asking, acting, -, -, hevents, hverdict⟩ := hprocessing.heeds
  obtain ⟨actions, errors, hactions, hacting⟩ := hverdict.acted response rfl
  refine ⟨actions, errors, site, shooting ++ asking, acting, hactions, ?_, hevents⟩
  -- the interpreter depends on the factor of the screenshot, which stays
  have hinterpreter : engine.interpreter s'.context =
      engine.interpreter (s.captured site screenshot).context := by
    rw [interpreter, hverdict.context]
    rfl
  rw [hinterpreter]
  exact hacting

/-- The results of a step that is processed once, and not again. -/
theorem repetition_of_ends {task : StepTask} {rounds : Nat} {result : Option StepResponse}
    {events : List Event} (h : (engine.processStep task).Yields s result s' events)
    (hends : StepResponse.Ends result) :
    engine.Repetition task (rounds + 1) s result.isSome s' events [result] where
  processed := by
    rw [← List.append_nil events]
    exact .cons h (.nil s')
  within := Nat.succ_le_succ (Nat.zero_le rounds)
  first earlier other later heq _ := by
    cases earlier with
    | nil => exact (List.cons.inj heq).2.symm
    | cons one earlier => simp at heq
  all hnone := absurd hends (hnone result (List.mem_singleton.2 rfl))
  well := by
    rw [Option.isSome_iff_exists]
    constructor
    · rintro ⟨response, rfl⟩
      exact ⟨response, rfl, hends response rfl⟩
    · rintro ⟨response, hlast, -⟩
      exact ⟨response, Option.some.inj hlast⟩
  acted hok := by
    obtain ⟨response, rfl⟩ := Option.isSome_iff_exists.1 hok
    obtain ⟨actions, errors, site, before, acting, hacts⟩ := processStep_acts h
    exact ⟨response, actions, errors, site, before, acting, rfl, hacts⟩

/-- Another round in front. -/
theorem Repetition.cons {task : StepTask} {rounds : Nat} {result : Option StepResponse} {ok : Bool}
    {results : List (Option StepResponse)} {first later : List Event}
    (hfirst : (engine.processStep task).Yields s result s₁ first) (hends : ¬StepResponse.Ends result)
    (h : engine.Repetition task rounds s₁ ok s' later results) :
    engine.Repetition task (rounds + 1) s ok s' (first ++ later) (result :: results) where
  processed := .cons hfirst h.processed
  within := Nat.succ_le_succ h.within
  first earlier other later heq hother := by
    cases earlier with
    | nil =>
      obtain ⟨rfl, -⟩ := List.cons.inj heq
      exact absurd hother hends
    | cons one earlier => exact h.first earlier other later (List.cons.inj heq).2 hother
  all hnone := by
    rw [List.length_cons, h.all fun other hother => hnone other (List.mem_cons_of_mem _ hother)]
  well := by
    rw [h.well]
    constructor
    · rintro ⟨response, hlast, hstop⟩
      refine ⟨response, ?_, hstop⟩
      rw [List.getLast?_cons, hlast]
      rfl
    · rintro ⟨response, hlast, hstop⟩
      cases results with
      | nil =>
        -- the first result does not ask to stop, so it is not the last one
        refine absurd (fun other hother => ?_) hends
        obtain rfl : result = some response := Option.some.inj hlast
        exact Option.some.inj hother ▸ hstop
      | cons second results =>
        rw [List.getLast?_cons_cons] at hlast
        exact ⟨response, hlast, hstop⟩
  acted hok := by
    obtain ⟨response, actions, errors, site, before, acting, hlast, hactions, hacting, rfl⟩ := h.acted hok
    refine ⟨response, actions, errors, site, first ++ before, acting, ?_, hactions, hacting, ?_⟩
    · rw [List.getLast?_cons, hlast]
      rfl
    · rw [List.append_assoc]

/-- A repeating step is carried out in rounds, up to the first one that ends it. -/
theorem repetition_of_yields {task : StepTask} {rounds done : Nat} {ok : Bool} {events : List Event}
    (h : (engine.repeatStep task rounds done).Yields s ok s' events) :
    ∃ results, engine.Repetition task rounds s ok s' events results := by
  -- by the rounds that are left
  induction rounds generalizing done s events with
  | zero =>
    rw [repeatStep, yields_say_bind, Routine.yields_pure] at h
    obtain ⟨rfl, rfl, rfl⟩ := h
    refine ⟨[], .nil s', Nat.le_refl 0, ?_, fun _ => rfl, ?_, fun hok => absurd hok Bool.false_ne_true⟩
    · intro earlier result later heq
      simp at heq
    · simp
  | succ rounds ih =>
    obtain ⟨result, ⟨hstep, hends, rfl⟩ | ⟨hends, s₁, first, later, hstep, hrest, rfl⟩⟩ :=
      repeatStep_succ_yields h
    · exact ⟨[result], repetition_of_ends hstep hends⟩
    · obtain ⟨results, hrepetition⟩ := ih hrest
      exact ⟨result :: results, hrepetition.cons hstep hends⟩

end Engine

end ScreenScript
