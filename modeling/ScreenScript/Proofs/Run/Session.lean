import ScreenScript.Proofs.Routine
import ScreenScript.Run.Runner

/-!
# The parts of a session

What routines on the parts of a session yield, what pauses do, and that messages do nothing at all.

* `Session.yields_onSite_bind`, `Session.attempt_yields` — routines on a part, and what stands behind them
* `Routine.pauseEvents` — what a pause does
* `Engine.silent_saySeen`, `Engine.silent_sayFailed`, `Engine.silent_sayPassed` — messages
-/

namespace ScreenScript

/-! ## Parts -/

namespace Session

variable {δ α : Type} {s s' : Session δ} {a : α} {events : List Event}

theorem yields_onSite {m : Routine (Site δ) α} :
    (onSite m).Yields s a s' events ↔ ∃ site, m.Yields s.site a site events ∧ s' = { s with site } :=
  Routine.yields_within

/-- A request whose faults may be results, with all that it leaves and does. -/
theorem attempt_yields {β : Type} {m : Routine Nat α} {caught : Fault → Option β} {r : Except β α}
    (h : ((onService m).attempt caught).Yields s r s' events) :
    ((∃ a, r = .ok a ∧ (m s.sent).result = .ok a) ∨
      ∃ fault b, r = .error b ∧ (m s.sent).result = .error fault ∧ caught fault = some b) ∧
    s' = { s with sent := (m s.sent).state } ∧ events = (m s.sent).trace := by
  rcases Routine.yields_attempt.1 h with ⟨a, rfl, ha⟩ | ⟨fault, b, rfl, hr, hc, rfl, rfl⟩
  · exact ⟨.inl ⟨a, rfl, ha.result⟩, ha.state.symm, ha.trace.symm⟩
  · exact ⟨.inr ⟨fault, b, rfl, hr, hc⟩, rfl, rfl⟩

theorem yields_onDisk {m : Routine Disk α} :
    (onDisk m : Routine (Session δ) α).Yields s a s' events ↔ ∃ disk, m.Yields s.site.disk a disk events ∧
      s' = { s with site := { s.site with disk } } := by
  rw [onDisk, yields_onSite]
  constructor
  · rintro ⟨site, h, rfl⟩
    obtain ⟨disk, hdisk, rfl⟩ := Routine.yields_within.1 h
    exact ⟨disk, hdisk, rfl⟩
  · rintro ⟨disk, h, rfl⟩
    exact ⟨_, Routine.yields_within.2 ⟨disk, h, rfl⟩, rfl⟩

/-- What stands behind a routine on the site. -/
theorem yields_onSite_bind {β : Type} {m : Routine (Site δ) β} {f : β → Routine (Session δ) α} :
    (onSite m >>= f).Yields s a s' events ↔
      ∃ b site earlier later, m.Yields s.site b site earlier ∧
        (f b).Yields { s with site } a s' later ∧ events = earlier ++ later := by
  rw [Routine.yields_bind]
  constructor
  · rintro ⟨b, s₁, earlier, later, hm, hf, rfl⟩
    obtain ⟨site, hsite, rfl⟩ := yields_onSite.1 hm
    exact ⟨b, site, earlier, later, hsite, hf, rfl⟩
  · rintro ⟨b, site, earlier, later, hm, hf, rfl⟩
    exact ⟨b, _, earlier, later, yields_onSite.2 ⟨site, hm, rfl⟩, hf, rfl⟩

/-- What stands behind a look at the context. -/
theorem yields_getContext_bind {f : RunContext → Routine (Session δ) α} :
    (getContext >>= f).Yields s a s' events ↔ (f s.context).Yields s a s' events :=
  Routine.yields_bind_of_apply rfl

/-- What stands behind a change of the context. -/
theorem yields_changeContext_bind {change : RunContext → RunContext} {f : Unit → Routine (Session δ) α} :
    (changeContext change >>= f).Yields s a s' events ↔
      (f ()).Yields { s with context := change s.context } a s' events :=
  Routine.yields_bind_of_apply rfl

end Session

/-! ## Pauses -/

namespace Routine

/-- What a pause does. -/
def pauseEvents (milliseconds : Scalar) : List Event :=
  if milliseconds.isNonPositive then [] else [.slept milliseconds]

/-- A pause leaves the state alone. -/
theorem pause_yields {σ : Type} {milliseconds : Scalar} {s s' : σ} {u : Unit} {events : List Event}
    (h : (pause milliseconds).Yields s u s' events) : s' = s ∧ events = pauseEvents milliseconds := by
  rw [pause, Pause.seconds] at h
  rw [pauseEvents]
  split at h
  · exact absurd h yields_fail
  · next hs =>
    split at hs
    · next hp =>
      rw [if_pos hp]
      simpa using h
    · cases hd : milliseconds.div Pause.thousand with
      | error error =>
        rw [hd] at hs
        cases hs
      | ok x =>
        rw [hd] at hs
        cases hs
  · next hs =>
    split at hs
    · cases hs
    · next hp =>
      rw [if_neg hp]
      simpa using h

/-- A pause either can be made, or it breaks off and nothing happens. -/
theorem yields_pause {σ : Type} {milliseconds : Scalar} {s s' : σ} {u : Unit} {events : List Event} :
    (pause milliseconds).Yields s u s' events ↔
      (∃ seconds, Pause.seconds milliseconds = .ok seconds) ∧ s' = s ∧
        events = pauseEvents milliseconds := by
  constructor
  · intro h
    refine ⟨?_, pause_yields h⟩
    cases hs : Pause.seconds milliseconds with
    | ok seconds => exact ⟨seconds, rfl⟩
    | error error =>
      rw [pause, hs] at h
      exact absurd h yields_fail
  · rintro ⟨⟨seconds, hs⟩, rfl, rfl⟩
    have hresult : (pause milliseconds s').result = .ok () := by
      rw [pause, hs]
      cases seconds <;> rfl
    have hyields := yields_of_result hresult
    obtain ⟨hstate, htrace⟩ := pause_yields hyields
    rwa [hstate, htrace] at hyields

/-- Where a pause cannot be made, nothing has happened. -/
theorem pause_of_error {σ : Type} {milliseconds : Scalar} {error : ArithmeticError}
    (h : Pause.seconds milliseconds = .error error) (s : σ) :
    pause milliseconds s = ⟨.error (.arithmetic error), s, [], []⟩ := by
  rw [pause, h]
  rfl

/-- What stands behind a pause. -/
theorem pause_bind_yields {σ α : Type} {milliseconds : Scalar} {f : Unit → Routine σ α} {s s' : σ} {a : α}
    {events : List Event} (h : (pause milliseconds >>= f).Yields s a s' events) :
    ∃ later, (f ()).Yields s a s' later ∧ events = pauseEvents milliseconds ++ later := by
  obtain ⟨u, s₁, earlier, later, hpause, hf, rfl⟩ := yields_bind.1 h
  obtain ⟨rfl, rfl⟩ := pause_yields hpause
  exact ⟨later, hf, rfl⟩

end Routine

/-! ## Messages -/

namespace Engine

variable {δ α : Type} {s s' : Session δ} {a : α} {events : List Event}

/-- What stands behind a message. -/
theorem yields_say_bind {level : Level} {message : Text} {f : Unit → Routine (Session δ) α} :
    (say level message >>= f).Yields s a s' events ↔ (f ()).Yields s a s' events :=
  Routine.yields_bind_of_apply rfl

theorem silent_saySeen (texts : List Text) : (saySeen texts : Routine (Session δ) Unit).Silent := by
  induction texts with
  | nil => exact Routine.silent_pure
  | cons item rest ih => exact Routine.silent_bind Routine.silent_say fun _ => ih

theorem yields_saySeen {texts : List Text} {u : Unit} :
    (saySeen texts).Yields s u s' events ↔ s' = s ∧ events = [] := by
  have hok : ((saySeen texts : Routine (Session δ) Unit) s).result = .ok () := by
    induction texts with
    | nil => rfl
    | cons item rest ih =>
      rw [saySeen, Routine.bind_of_ok (by rfl)]
      exact ih
  obtain ⟨hstate, htrace⟩ := silent_saySeen texts s
  constructor
  · exact (silent_saySeen texts).of_yields
  · rintro ⟨rfl, rfl⟩
    exact ⟨hok, hstate, htrace⟩

theorem silent_sayEach (texts : List Text) : (sayEach texts : Routine (Session δ) Unit).Silent := by
  induction texts with
  | nil => exact Routine.silent_pure
  | cons item rest ih => exact Routine.silent_bind Routine.silent_say fun _ => ih

theorem silent_sayFailed (step : Step) (failed : List Text) :
    (sayFailed step failed : Routine (Session δ) Unit).Silent := by
  rw [sayFailed]
  split
  · refine Routine.silent_bind Routine.silent_say fun _ => ?_
    refine Routine.silent_bind (silent_sayEach failed) fun _ => ?_
    split <;> exact Routine.silent_say
  · exact Routine.silent_pure

theorem silent_sayPassed (step : Step) (passed : List Text) :
    (sayPassed step passed : Routine (Session δ) Unit).Silent := by
  rw [sayPassed]
  split
  · refine Routine.silent_bind Routine.silent_say fun _ => ?_
    exact Routine.silent_bind (silent_sayEach passed) fun _ => Routine.silent_say
  · exact Routine.silent_pure

end Engine

end ScreenScript
