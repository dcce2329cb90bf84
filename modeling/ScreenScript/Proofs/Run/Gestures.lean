import ScreenScript.Proofs.Run.Session

/-!
# What actions do

An action presses a key, taps, swipes, or types a text at a point, or it does nothing. Every point goes
through the factor of the interpreter, and through nothing else, before the device learns of it.

* `Interpreter.Shows` — a coordinate of the picture and the one of the screen that it stands for
* `Interpreter.Performing`, `Interpreter.Acting` — what one action does, and what several do in turn
* `Interpreter.acting_of_yields` — actions do nothing else
-/

namespace ScreenScript

namespace Interpreter

variable {δ : Type}

/-! ## The ways -/

/-- A coordinate of the picture stands for one of the screen. -/
def Shows (interpreter : Interpreter δ) (value shown : Int) : Prop :=
  RunContext.toDevice interpreter.factor (.int value) = .ok shown

/-- The key that a gesture presses. -/
def key? (interpreter : Interpreter δ) : Gesture → Option (Routine (Site δ) Bool)
  | .home => some interpreter.device.home
  | .back => some interpreter.device.back
  | .recent => some interpreter.device.recent
  | _ => none

/-- The soft error of an input at a point, from what the device has answered. -/
def inputError (action : Text) (parts : Gesture.Input) (x y : Int) (tapped typed : Bool) :
    Option SoftError :=
  if !typed then
    some ⟨action, "Error inputting text: ".toList ++ parts.text⟩
  else if !tapped then
    some ⟨action, "Error tapping at ".toList ++ Text.ofInt x ++ ", ".toList ++ Text.ofInt y⟩
  else
    none

/-- Carrying out an action without blanks at its ends: its soft error, the site it leaves, and what
happens. -/
inductive Performing (interpreter : Interpreter δ) (action : Text) (site : Site δ) :
    Option SoftError → Site δ → List Event → Prop
  /-- a key is pressed -/
  | key {press : Routine (Site δ) Bool} {ok : Bool} {site' : Site δ} {events : List Event} :
    interpreter.key? (Gesture.ofAction action) = some press → press.Yields site ok site' events →
    Performing interpreter action site none site' events
  /-- a point is tapped -/
  | tap {x y x' y' : Int} {ok : Bool} {site' : Site δ} {events : List Event} :
    Gesture.ofAction action = .tap x y → interpreter.Shows x x' → interpreter.Shows y y' →
    (interpreter.device.tap x' y').Yields site ok site' events →
    Performing interpreter action site none site' events
  /-- there is a swipe from one point to another -/
  | swipe {x₁ y₁ x₂ y₂ x₁' y₁' x₂' y₂' : Int} {ok : Bool} {site' : Site δ} {events : List Event} :
    Gesture.ofAction action = .swipe x₁ y₁ x₂ y₂ → interpreter.Shows x₁ x₁' →
    interpreter.Shows y₁ y₁' → interpreter.Shows x₂ x₂' → interpreter.Shows y₂ y₂' →
    (interpreter.device.swipe x₁' y₁' x₂' y₂').Yields site ok site' events →
    Performing interpreter action site none site' events
  /-- a point is tapped and, whether that went well or not, a text is typed after a pause -/
  | input {parts : Gesture.Input} {x y : Nat} {x' y' : Int} {tapped typed : Bool}
    {site₁ site' : Site δ} {tapping typing : List Event} :
    Gesture.ofAction action = .input → Gesture.inputParts? action = some parts →
    Text.readDigits? parts.x = some x → Text.readDigits? parts.y = some y →
    interpreter.Shows x x' → interpreter.Shows y y' →
    (interpreter.device.tap x' y').Yields site tapped site₁ tapping →
    (interpreter.device.type parts.text).Yields site₁ typed site' typing →
    Performing interpreter action site (inputError action parts x' y' tapped typed) site'
      (tapping ++ Routine.pauseEvents (.int interpreter.delay) ++ typing)
  /-- the action asks for nothing -/
  | nothing :
    Gesture.ofAction action = .malformed ∨ Gesture.ofAction action = .unknown ∨
      Gesture.ofAction action = .input ∧ Gesture.inputParts? action = none →
    Performing interpreter action site none site []

/-- Carrying out actions one after the other, each followed by a pause: the soft errors, the site they
leave, and what happens. -/
inductive Acting (interpreter : Interpreter δ) :
    List Text → Site δ → List SoftError → Site δ → List Event → Prop
  | nil (site : Site δ) : Acting interpreter [] site [] site []
  | cons {action : Text} {actions : List Text} {site site₁ site' : Site δ} {error : Option SoftError}
    {errors : List SoftError} {events later : List Event} :
    interpreter.Performing action.trim site error site₁ events →
    Acting interpreter actions site₁ errors site' later →
    Acting interpreter (action :: actions) site (error.toList ++ errors) site'
      (events ++ Routine.pauseEvents (.int interpreter.delay) ++ later)

/-! ## There are no other ways -/

variable {interpreter : Interpreter δ} {site site' : Site δ} {error : Option SoftError}
  {events : List Event}

theorem yields_onScreen_bind {α : Type} {value : Int} {f : Int → Routine (Site δ) α} {a : α} :
    (interpreter.onScreen value >>= f).Yields site a site' events ↔
      ∃ shown, interpreter.Shows value shown ∧ (f shown).Yields site a site' events := by
  rw [Routine.yields_bind]
  constructor
  · rintro ⟨shown, site₁, earlier, later, hshown, h, rfl⟩
    obtain ⟨hshows, rfl, rfl⟩ := Routine.yields_ofExcept.1 hshown
    exact ⟨shown, hshows, h⟩
  · rintro ⟨shown, hshows, h⟩
    exact ⟨shown, site, [], events, Routine.yields_ofExcept.2 ⟨hshows, rfl, rfl⟩, h, rfl⟩

theorem yields_written_bind {α : Type} {digits : Text} {f : Int → Routine (Site δ) α} {a : α}
    (h : (written digits >>= f).Yields site a site' events) :
    ∃ value : Nat, Text.readDigits? digits = some value ∧ (f value).Yields site a site' events := by
  rw [written] at h
  cases hd : Text.readDigits? digits with
  | none =>
    rw [hd] at h
    obtain ⟨value, site₁, earlier, later, hfail, -⟩ := Routine.yields_bind.1 h
    exact absurd hfail Routine.yields_fail
  | some value =>
    rw [hd] at h
    exact ⟨value, rfl, h⟩

theorem silent_sayTap {origin : Text} {x y : Int} : (interpreter.sayTap origin x y).Silent :=
  Routine.silent_bind Routine.silent_ofExcept fun _ => Routine.silent_say

theorem silent_report (error : Option SoftError) : (report error : Routine (Site δ) Unit).Silent := by
  cases error with
  | none => exact Routine.silent_pure
  | some error => exact Routine.silent_say

theorem call_yields {m : Routine (Site δ) Bool} (h : (call m).Yields site error site' events) :
    error = none ∧ ∃ ok, m.Yields site ok site' events := by
  rw [call, Routine.yields_bind] at h
  obtain ⟨ok, site₁, earlier, later, hm, h, rfl⟩ := h
  obtain ⟨rfl, rfl, rfl⟩ := Routine.yields_pure.1 h
  exact ⟨rfl, ok, by rwa [List.append_nil]⟩

theorem input_yields {action : Text} {parts : Gesture.Input}
    (hgesture : Gesture.ofAction action = .input) (hparts : Gesture.inputParts? action = some parts)
    (h : (interpreter.input action parts).Yields site error site' events) :
    interpreter.Performing action site error site' events := by
  rw [input] at h
  obtain ⟨x, hx, h⟩ := yields_written_bind h
  obtain ⟨x', hx', h⟩ := yields_onScreen_bind.1 h
  obtain ⟨y, hy, h⟩ := yields_written_bind h
  obtain ⟨y', hy', h⟩ := yields_onScreen_bind.1 h
  obtain ⟨u, hpoint⟩ := silent_sayTap.of_bind h
  rw [Routine.yields_bind] at hpoint
  obtain ⟨tapped, site₁, tapping, later, htap, hbehind, rfl⟩ := hpoint
  obtain ⟨last, hlast, rfl⟩ := Routine.pause_bind_yields hbehind
  obtain ⟨u', htyping⟩ := Routine.silent_say.of_bind hlast
  rw [Routine.yields_bind] at htyping
  obtain ⟨typed, site₂, typing, rest, htype, herror, rfl⟩ := htyping
  obtain ⟨rfl, rfl, rfl⟩ := Routine.yields_pure.1 herror
  rw [List.append_nil, ← List.append_assoc]
  exact .input hgesture hparts hx hy hx' hy' htap htype

/-- An action goes one of the ways. -/
theorem performing_of_yields {action : Text}
    (h : (interpreter.perform action).Yields site error site' events) :
    interpreter.Performing action site error site' events := by
  -- a key is pressed whatever key it is
  have hkey {press : Routine (Site δ) Bool}
      (hpress : interpreter.key? (Gesture.ofAction action) = some press)
      (h : (call press).Yields site error site' events) :
      interpreter.Performing action site error site' events := by
    obtain ⟨rfl, ok, hpressed⟩ := call_yields h
    exact .key hpress hpressed
  rw [perform] at h
  cases hgesture : Gesture.ofAction action with
  | home | back | recent =>
    rw [hgesture] at h
    exact hkey (by rw [hgesture]; rfl) h
  | tap x y =>
    rw [hgesture] at h
    obtain ⟨x', hx, h⟩ := yields_onScreen_bind.1 h
    obtain ⟨y', hy, h⟩ := yields_onScreen_bind.1 h
    obtain ⟨u, h⟩ := silent_sayTap.of_bind h
    obtain ⟨rfl, ok, htap⟩ := call_yields h
    exact .tap hgesture hx hy htap
  | swipe x₁ y₁ x₂ y₂ =>
    rw [hgesture] at h
    obtain ⟨x₁', hx₁, h⟩ := yields_onScreen_bind.1 h
    obtain ⟨y₁', hy₁, h⟩ := yields_onScreen_bind.1 h
    obtain ⟨x₂', hx₂, h⟩ := yields_onScreen_bind.1 h
    obtain ⟨y₂', hy₂, h⟩ := yields_onScreen_bind.1 h
    obtain ⟨rfl, ok, hswipe⟩ := call_yields h
    exact .swipe hgesture hx₁ hy₁ hx₂ hy₂ hswipe
  | input =>
    rw [hgesture] at h
    cases hparts : Gesture.inputParts? action with
    | none =>
      rw [hparts] at h
      obtain ⟨rfl, rfl, rfl⟩ := Routine.yields_pure.1 h
      exact .nothing (.inr (.inr ⟨hgesture, hparts⟩))
    | some parts =>
      rw [hparts] at h
      exact input_yields hgesture hparts h
  | malformed =>
    rw [hgesture] at h
    obtain ⟨rfl, rfl, rfl⟩ := Routine.yields_pure.1 h
    exact .nothing (.inl hgesture)
  | unknown =>
    rw [hgesture] at h
    obtain ⟨u, h⟩ := Routine.silent_say.of_bind h
    obtain ⟨rfl, rfl, rfl⟩ := Routine.yields_pure.1 h
    exact .nothing (.inr (.inl hgesture))

theorem performOne_yields {action : Text}
    (h : (interpreter.performOne action).Yields site error site' events) :
    ∃ acting, interpreter.Performing action.trim site error site' acting ∧
      events = acting ++ Routine.pauseEvents (.int interpreter.delay) := by
  rw [performOne, Routine.yields_bind] at h
  obtain ⟨error, site₁, acting, later, hacting, h, rfl⟩ := h
  obtain ⟨u, hrest⟩ := (silent_report error).of_bind h
  obtain ⟨last, hpure, rfl⟩ := Routine.pause_bind_yields hrest
  obtain ⟨rfl, rfl, rfl⟩ := Routine.yields_pure.1 hpure
  exact ⟨acting, performing_of_yields hacting, by rw [List.append_nil]⟩

/-- Actions are carried out in turn. -/
theorem acting_of_yields {actions : List Text} {errors : List SoftError}
    (h : (interpreter.performAll actions).Yields site errors site' events) :
    interpreter.Acting actions site errors site' events := by
  induction actions generalizing site errors events with
  | nil =>
    obtain ⟨rfl, rfl, rfl⟩ := Routine.yields_pure.1 h
    exact .nil _
  | cons action actions ih =>
    rw [performAll, Routine.yields_bind] at h
    obtain ⟨error, site₁, first, behind, hfirst, h, rfl⟩ := h
    rw [Routine.yields_bind] at h
    obtain ⟨errors, site₂, later, last, hrest, h, rfl⟩ := h
    obtain ⟨rfl, rfl, rfl⟩ := Routine.yields_pure.1 h
    obtain ⟨acting, hperforming, rfl⟩ := performOne_yields hfirst
    rw [List.append_nil]
    exact .cons hperforming (ih hrest)

end Interpreter

end ScreenScript
