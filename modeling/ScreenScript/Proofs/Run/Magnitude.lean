import ScreenScript.Proofs.Run.Quotation
import ScreenScript.Proofs.Run.Turns
import ScreenScript.Proofs.Script.Oversize

/-!
# Numbers that are too large

An action that asks for nothing does nothing, and neither does one with too few or too many numbers. But a
number may be too large: an input has digits that are more than can be read, or the coordinate of the screen
for a number is not a finite one. Then carrying out actions breaks off, before the action does anything.

* `Interpreter.Bounded` — the numbers of an action are not too large
* `Device.Answers`, `Interpreter.Scales` — a device that answers every call, and a factor that scales
* `Interpreter.perform_exceeds`, `Interpreter.perform_returns` — an action with such a number, and one without
* `Interpreter.performed_iff_bounded` — carrying out actions breaks off at nothing else
-/

namespace ScreenScript

/-! ## Quotients -/

namespace Binary64

theorem round_ne_nan (negative : Bool) (num den : Nat) : round negative num den ≠ .nan := by
  rw [round]
  split
  · nofun
  · dsimp only
    split <;> split <;> nofun

theorem isFinite_of_ofInt? {n : Int} {x : Binary64} (h : ofInt? n = some x) : x.isFinite = true := by
  rw [ofInt?] at h
  split at h
  · cases h
  · next hinf =>
    obtain rfl := Option.some.inj h
    cases hround : round (n < 0) n.natAbs 1 with
    | nan => exact absurd hround (round_ne_nan _ _ _)
    | inf negative => exact absurd hround (hinf negative)
    | finite negative mantissa exponent => rfl

/-- The quotient of two finite numbers, and one half added to it, is a number. -/
theorem add_half_div_ne_nan {x y : Binary64} (hx : x.isFinite = true) (hy : y.isFinite = true) :
    (x.div y).add .half ≠ .nan := by
  cases x <;> cases hx
  cases y <;> cases hy
  rw [div]
  dsimp only
  cases hround : round _ _ _ with
  | nan => exact absurd hround (round_ne_nan _ _ _)
  | inf negative => nofun
  | finite negative mantissa exponent =>
    rw [half, add]
    split
    · nofun
    · exact round_ne_nan _ _ _

end Binary64

/-- A coordinate of the picture stands for one of the screen, or else it is too large. -/
theorem RunContext.toDevice_eq_overflow {factor : Binary64} (hfinite : factor.isFinite = true)
    (hzero : factor.isZero = false) {value : Int}
    (h : ∀ shown, toDevice (.real factor) (.int value) ≠ .ok shown) :
    toDevice (.real factor) (.int value) = .error .overflow := by
  have hdiv : (Scalar.int value).div (.real factor) =
      match Binary64.ofInt? value with
      | none => .error .overflow
      | some x => .ok (x.div factor) := by
    change (do Scalar.divReal (← (Scalar.int value).toReal) factor) = _
    rw [Scalar.toReal]
    cases Binary64.ofInt? value with
    | none => rfl
    | some x =>
      change Scalar.divReal x factor = _
      rw [Scalar.divReal, hzero, if_neg Bool.false_ne_true]
  rw [toDevice, hdiv] at h ⊢
  cases hx : Binary64.ofInt? value with
  | none => rfl
  | some x =>
    have hnan := Binary64.add_half_div_ne_nan (Binary64.isFinite_of_ofInt? hx) hfinite
    rw [hx] at h
    change ∀ shown, ((x.div factor).add .half).asInt Binary64.floor? ≠ .ok shown at h
    change ((x.div factor).add .half).asInt Binary64.floor? = .error .overflow
    rw [Binary64.asInt] at h ⊢
    cases hfloor : ((x.div factor).add .half).floor? with
    | none =>
      dsimp only
      rw [if_neg hnan]
    | some shown =>
      rw [hfloor] at h
      exact absurd rfl (h shown)

/-! ## Actions -/

/-- The device answers every call that an action can make. -/
structure Device.Answers {δ : Type} (device : Device δ) : Prop where
  home : device.home.Returns
  back : device.back.Returns
  recent : device.recent.Returns
  tap : ∀ x y, (device.tap x y).Returns
  swipe : ∀ x₁ y₁ x₂ y₂, (device.swipe x₁ y₁ x₂ y₂).Returns
  type : ∀ text, (device.type text).Returns

namespace Interpreter

variable {δ : Type} {interpreter : Interpreter δ} {site : Site δ} {action : Text}

/-- The factor is a positive finite number. -/
def Scales (interpreter : Interpreter δ) : Prop :=
  ∃ mantissa exponent, 0 < mantissa ∧ interpreter.factor = .real (.finite false mantissa exponent)

/-- The pause behind an action can be made. -/
def CanRest (interpreter : Interpreter δ) : Prop :=
  ∃ seconds, Pause.seconds (.int interpreter.delay) = .ok seconds

/-- A number of an action stands for a coordinate of the screen. -/
def CanShow (interpreter : Interpreter δ) (value : Int) : Prop := ∃ shown, interpreter.Shows value shown

/-- Digits of an action stand for a coordinate of the screen. -/
def CanShowDigits (interpreter : Interpreter δ) (digits : Text) : Prop :=
  ∃ value : Nat, Text.readDigits? digits = some value ∧ interpreter.CanShow value

/-- The numbers of an action, if it asks for something at a point, stand for coordinates of the screen. -/
def Bounded (interpreter : Interpreter δ) (action : Text) : Prop :=
  match Gesture.ofAction action with
  | .tap x y => interpreter.CanShow x ∧ interpreter.CanShow y
  | .swipe x₁ y₁ x₂ y₂ =>
    interpreter.CanShow x₁ ∧ interpreter.CanShow y₁ ∧ interpreter.CanShow x₂ ∧ interpreter.CanShow y₂
  | .input => ∀ parts, Gesture.inputParts? action = some parts →
    interpreter.CanShowDigits parts.x ∧ interpreter.CanShowDigits parts.y
  | _ => True

/-- The action asks for nothing: it is no action, or its numbers are missing or too many. -/
def AsksNothing (action : Text) : Prop :=
  Gesture.ofAction action = .malformed ∨ Gesture.ofAction action = .unknown ∨
    Gesture.ofAction action = .input ∧ Gesture.inputParts? action = none

/-! ## Actions that are too large -/

/-- The routine breaks off at a number that is too large, and does nothing. -/
def Exceeds {α : Type} (m : Routine (Site δ) α) : Prop :=
  ∃ error, (error = .overflow ∨ error = .tooManyDigits) ∧ m = Routine.fail (.arithmetic error)

section

variable {α β : Type}

theorem Exceeds.bind {m : Routine (Site δ) β} (h : Exceeds m) (f : β → Routine (Site δ) α) :
    Exceeds (m >>= f) := by
  obtain ⟨error, herror, rfl⟩ := h
  exact ⟨error, herror, Routine.fail_bind f⟩

theorem exceeds_onScreen (hscales : interpreter.Scales) {value : Int} (h : ¬interpreter.CanShow value) :
    Exceeds (interpreter.onScreen value) := by
  obtain ⟨mantissa, exponent, hpositive, hfactor⟩ := hscales
  refine ⟨.overflow, .inl rfl, ?_⟩
  rw [onScreen, hfactor, RunContext.toDevice_eq_overflow rfl]
  · rfl
  · simp [Binary64.isZero, Nat.ne_of_gt hpositive]
  · intro shown hshown
    exact h ⟨shown, by rwa [Shows, hfactor]⟩

/-- What stands behind a coordinate breaks off if the coordinate does, or else if the rest does. -/
theorem exceeds_behind_onScreen (hscales : interpreter.Scales) {value : Int}
    {f : Int → Routine (Site δ) α} (h : interpreter.CanShow value → ∀ shown, Exceeds (f shown)) :
    Exceeds (interpreter.onScreen value >>= f) := by
  by_cases hcan : interpreter.CanShow value
  · obtain ⟨shown, hshows⟩ := id hcan
    rw [onScreen_of_shows hshows, Routine.pure_bind]
    exact h hcan shown
  · exact (exceeds_onScreen hscales hcan).bind f

theorem exceeds_behind_written {digits : Text} {f : Int → Routine (Site δ) α}
    (h : ∀ value : Nat, Text.readDigits? digits = some value → Exceeds (f value)) :
    Exceeds (written digits >>= f) := by
  rw [written]
  cases hvalue : Text.readDigits? digits with
  | none => exact ⟨.tooManyDigits, .inr rfl, Routine.fail_bind f⟩
  | some value => exact h value hvalue

end

/-- An action with a number that is too large breaks off. -/
theorem perform_exceeds (hscales : interpreter.Scales) (h : ¬interpreter.Bounded action) :
    Exceeds (interpreter.perform action) := by
  rw [Bounded] at h
  rw [perform]
  cases hgesture : Gesture.ofAction action with
  | tap x y =>
    rw [hgesture] at h
    refine exceeds_behind_onScreen hscales fun hx _ => ?_
    refine exceeds_behind_onScreen hscales fun hy _ => ?_
    exact absurd ⟨hx, hy⟩ h
  | swipe x₁ y₁ x₂ y₂ =>
    rw [hgesture] at h
    refine exceeds_behind_onScreen hscales fun hx₁ _ => ?_
    refine exceeds_behind_onScreen hscales fun hy₁ _ => ?_
    refine exceeds_behind_onScreen hscales fun hx₂ _ => ?_
    refine exceeds_behind_onScreen hscales fun hy₂ _ => ?_
    exact absurd ⟨hx₁, hy₁, hx₂, hy₂⟩ h
  | input =>
    rw [hgesture] at h
    dsimp only at h ⊢
    cases hparts : Gesture.inputParts? action with
    | none => exact absurd (fun parts heq => by rw [hparts] at heq; cases heq) h
    | some parts =>
      refine exceeds_behind_written fun x hx => ?_
      refine exceeds_behind_onScreen hscales fun hxs _ => ?_
      refine exceeds_behind_written fun y hy => ?_
      refine exceeds_behind_onScreen hscales fun hys _ => ?_
      refine absurd (fun other heq => ?_) h
      obtain rfl := Option.some.inj (hparts.symm.trans heq)
      exact ⟨⟨x, hx, hxs⟩, ⟨y, hy, hys⟩⟩
  | home | back | recent | malformed | unknown =>
    rw [hgesture] at h
    exact absurd trivial h

/-- So do the actions that begin with it. -/
theorem performAll_exceeds (hscales : interpreter.Scales) (h : ¬interpreter.Bounded action.trim)
    (actions : List Text) : Exceeds (interpreter.performAll (action :: actions)) :=
  ((perform_exceeds hscales h).bind _).bind _

/-! ## Actions that are not -/

theorem returns_rest (h : interpreter.CanRest) : interpreter.rest.Returns := fun _ =>
  ⟨(), (Routine.yields_pause.2 ⟨h, rfl, rfl⟩).result⟩

theorem returns_sayTap (hscales : interpreter.Scales) (origin : Text) (x y : Int) :
    (interpreter.sayTap origin x y).Returns := by
  obtain ⟨mantissa, exponent, -, hfactor⟩ := hscales
  rw [sayTap, hfactor]
  exact Routine.returns_bind Routine.returns_pure fun _ => Routine.returns_say

theorem returns_call {m : Routine (Site δ) Bool} (h : m.Returns) : (call m).Returns :=
  Routine.returns_bind h fun _ => Routine.returns_pure

/-- An action without a number that is too large is carried out. -/
theorem perform_returns (hanswers : interpreter.device.Answers) (hscales : interpreter.Scales)
    (hrest : interpreter.CanRest) (h : interpreter.Bounded action) :
    (interpreter.perform action).Returns := by
  rw [Bounded] at h
  rw [perform]
  cases hgesture : Gesture.ofAction action with
  | home => exact returns_call hanswers.home
  | back => exact returns_call hanswers.back
  | recent => exact returns_call hanswers.recent
  | tap x y =>
    rw [hgesture] at h
    obtain ⟨⟨x', hx⟩, ⟨y', hy⟩⟩ := h
    dsimp only
    rw [onScreen_of_shows hx, Routine.pure_bind, onScreen_of_shows hy, Routine.pure_bind]
    exact Routine.returns_bind (returns_sayTap hscales _ _ _) fun _ => returns_call (hanswers.tap x' y')
  | swipe x₁ y₁ x₂ y₂ =>
    rw [hgesture] at h
    obtain ⟨⟨x₁', hx₁⟩, ⟨y₁', hy₁⟩, ⟨x₂', hx₂⟩, ⟨y₂', hy₂⟩⟩ := h
    dsimp only
    rw [onScreen_of_shows hx₁, Routine.pure_bind, onScreen_of_shows hy₁, Routine.pure_bind,
      onScreen_of_shows hx₂, Routine.pure_bind, onScreen_of_shows hy₂, Routine.pure_bind]
    exact returns_call (hanswers.swipe x₁' y₁' x₂' y₂')
  | input =>
    rw [hgesture] at h
    dsimp only
    cases hparts : Gesture.inputParts? action with
    | none => exact Routine.returns_pure
    | some parts =>
      obtain ⟨⟨x, hx, x', hxs⟩, ⟨y, hy, y', hys⟩⟩ := h parts hparts
      dsimp only
      rw [input, written, hx]
      dsimp only
      rw [Routine.pure_bind, onScreen_of_shows hxs, Routine.pure_bind, written, hy]
      dsimp only
      rw [Routine.pure_bind, onScreen_of_shows hys, Routine.pure_bind]
      refine Routine.returns_bind (returns_sayTap hscales _ _ _) fun _ => ?_
      refine Routine.returns_bind (hanswers.tap x' y') fun tapped => ?_
      refine Routine.returns_bind (returns_rest hrest) fun _ => ?_
      refine Routine.returns_bind Routine.returns_say fun _ => ?_
      exact Routine.returns_bind (hanswers.type parts.text) fun typed => Routine.returns_pure
  | malformed => exact Routine.returns_pure
  | unknown => exact Routine.returns_bind Routine.returns_say fun _ => Routine.returns_pure

theorem performAll_returns (hanswers : interpreter.device.Answers) (hscales : interpreter.Scales)
    (hrest : interpreter.CanRest) {actions : List Text}
    (h : ∀ action ∈ actions, interpreter.Bounded action.trim) :
    (interpreter.performAll actions).Returns := by
  induction actions with
  | nil => exact Routine.returns_pure
  | cons action actions ih =>
    have hfirst : (interpreter.performOne action).Returns := by
      refine Routine.returns_bind
        (perform_returns hanswers hscales hrest (h action List.mem_cons_self)) fun error => ?_
      refine Routine.returns_bind ?_ fun _ =>
        Routine.returns_bind (returns_rest hrest) fun _ => Routine.returns_pure
      cases error with
      | none => exact Routine.returns_pure
      | some error => exact Routine.returns_say
    refine Routine.returns_bind hfirst fun error => ?_
    exact Routine.returns_bind (ih fun action ha => h action (List.mem_cons_of_mem _ ha)) fun _ =>
      Routine.returns_pure

/-! ## Where carrying out actions breaks off -/

/-- What is carried out is not too large. -/
theorem Performing.bounded {error : Option SoftError} {site' : Site δ} {events : List Event}
    (h : interpreter.Performing action site error site' events) : interpreter.Bounded action := by
  rw [Bounded]
  cases h with
  | key hkey hpress =>
    cases hgesture : Gesture.ofAction action <;> first | trivial | (rw [hgesture] at hkey; cases hkey)
  | tap hgesture hx hy htap =>
    rw [hgesture]
    exact ⟨⟨_, hx⟩, ⟨_, hy⟩⟩
  | swipe hgesture hx₁ hy₁ hx₂ hy₂ hswipe =>
    rw [hgesture]
    exact ⟨⟨_, hx₁⟩, ⟨_, hy₁⟩, ⟨_, hx₂⟩, ⟨_, hy₂⟩⟩
  | input hgesture hparts hx hy hxs hys htap htype =>
    rw [hgesture]
    intro parts heq
    obtain rfl := Option.some.inj (hparts.symm.trans heq)
    exact ⟨⟨_, hx, _, hxs⟩, ⟨_, hy, _, hys⟩⟩
  | nothing hnothing =>
    rcases hnothing with h | h | ⟨h, hnone⟩ <;> rw [h]
    · trivial
    · trivial
    · intro parts heq
      rw [hnone] at heq
      cases heq

theorem Acting.bounded {actions : List Text} {errors : List SoftError} {site' : Site δ}
    {events : List Event} (h : interpreter.Acting actions site errors site' events) :
    ∀ action ∈ actions, interpreter.Bounded action.trim := by
  induction h with
  | nil site => nofun
  | cons hfirst _ ih =>
    intro other hother
    rcases List.mem_cons.1 hother with rfl | hother
    · exact hfirst.bounded
    · exact ih other hother

/-- Behind an action that is carried out, there is a pause. -/
theorem canRest_of_performOne {error : Option SoftError} {site' : Site δ} {events : List Event}
    (h : (interpreter.performOne action).Yields site error site' events) : interpreter.CanRest := by
  rw [performOne, Routine.yields_bind] at h
  obtain ⟨error, site₁, acting, later, -, h, -⟩ := h
  obtain ⟨u, hrest⟩ := (silent_report error).of_bind h
  obtain ⟨u', site₂, resting, last, hresting, -⟩ := Routine.yields_bind.1 hrest
  exact (Routine.yields_pause.1 hresting).1

/-- An action that asks for nothing only pauses. -/
theorem performOne_of_asksNothing (h : AsksNothing action.trim) :
    (interpreter.performOne action).Agrees (do interpreter.rest; return none) := by
  have hsilent : (interpreter.perform action.trim).Agrees (pure none) := by
    rw [perform]
    rcases h with h | h | ⟨h, hparts⟩ <;> rw [h]
    · exact Routine.agrees_of_yields (fun _ => ⟨rfl, rfl, rfl⟩) _
    · dsimp only
      rw [hparts]
  have hbind := hsilent.bind fun error => Routine.Agrees.refl (do
    report error
    interpreter.rest
    return error)
  rw [Routine.pure_bind] at hbind
  exact hbind.trans (agrees_report_bind none _)

/-- **Actions break off at large numbers.** With a device that answers every call and a factor that scales,
actions are carried out just if the numbers of every one of them are not too large, and the pauses behind
them can be made. Otherwise they break off at the first one with a number that is too large, which is a fault
of arithmetic: what stands before it has been carried out, and it has done nothing. An action that asks for
nothing is only a pause. -/
theorem performed_iff_bounded (hanswers : interpreter.device.Answers) (hscales : interpreter.Scales) :
    (∀ actions site, (∃ errors, (interpreter.performAll actions site).result = .ok errors) ↔
      (∀ action ∈ actions, interpreter.Bounded action.trim) ∧ (actions = [] ∨ interpreter.CanRest)) ∧
    (interpreter.CanRest → ∀ before action after site,
      (∀ earlier ∈ before, interpreter.Bounded earlier.trim) → ¬interpreter.Bounded action.trim →
      ∃ error, (error = .overflow ∨ error = .tooManyDigits) ∧
        (interpreter.performAll (before ++ action :: after) site).result = .error (.arithmetic error) ∧
        (interpreter.performAll (before ++ action :: after) site).state =
          (interpreter.performAll before site).state ∧
        (interpreter.performAll (before ++ action :: after) site).trace =
          (interpreter.performAll before site).trace) ∧
    ∀ action : Text, AsksNothing action.trim →
      (interpreter.performOne action).Agrees (do interpreter.rest; return none) := by
  refine ⟨?_, ?_, fun action => performOne_of_asksNothing⟩
  · intro actions site
    constructor
    · rintro ⟨errors, h⟩
      refine ⟨(acting_of_yields (Routine.yields_of_result h)).bounded, ?_⟩
      cases actions with
      | nil => exact .inl rfl
      | cons action actions =>
        obtain ⟨error, hone, -⟩ := Routine.bind_ok h
        exact .inr (canRest_of_performOne (Routine.yields_of_result hone))
    · rintro ⟨hbounded, rfl | hrest⟩
      · exact ⟨[], rfl⟩
      · exact performAll_returns hanswers hscales hrest hbounded site
  · intro hrest before action after site hbefore haction
    obtain ⟨errors, herrors⟩ := performAll_returns hanswers hscales hrest hbefore site
    obtain ⟨error, herror, hfail⟩ := performAll_exceeds hscales haction after
    refine ⟨error, herror, ?_⟩
    rw [performAll_append, Routine.bind_of_ok herrors, hfail, Routine.fail_bind, Outcome.behind]
    exact ⟨rfl, rfl, List.append_nil _⟩

end Interpreter

namespace Rehearsal

theorem returns_call (answers : Answers) (c : DeviceCall) : (call answers c).Returns :=
  fun _ => ⟨_, rfl⟩

theorem answers_device (answers : Answers) : (device answers).Answers where
  home := returns_call answers _
  back := returns_call answers _
  recent := returns_call answers _
  tap _ _ := returns_call answers _
  swipe _ _ _ _ := returns_call answers _
  type _ := returns_call answers _

theorem scales_interpreter (answers : Answers) (delay : Int) :
    (interpreter answers (.real .half) delay).Scales := ⟨_, _, by decide, rfl⟩

/-- An interpreter for a picture of half the size. -/
def halved : Interpreter (List DeviceCall) := interpreter clumsy (.real .half) 10

/-- A key, a tap whose first number has one digit too many for a coordinate, and another key. -/
def overshooting : List Text :=
  ["home".toList, "tap 1".toList ++ List.replicate 308 '0' ++ ",2".toList, "back".toList]

end Rehearsal

namespace Interpreter

/-- The key in front of a tap that is too large is pressed, and that behind it is not. -/
theorem performed_iff_bounded_of_overshooting :
    Rehearsal.halved.device.Answers ∧ Rehearsal.halved.Scales ∧
      ¬(∀ action ∈ Rehearsal.overshooting, Rehearsal.halved.Bounded action.trim) ∧
      (Rehearsal.halved.performAll Rehearsal.overshooting ⟨{}, []⟩).trace =
        [.called .home, .slept (.int 10)] := by
  have hanswers : Rehearsal.halved.device.Answers := Rehearsal.answers_device _
  have hscales : Rehearsal.halved.Scales := Rehearsal.scales_interpreter _ _
  have hrest : Rehearsal.halved.CanRest := ⟨_, rfl⟩
  obtain ⟨hiff, -, -⟩ := performed_iff_bounded hanswers hscales
  refine ⟨hanswers, hscales, fun hbounded => ?_, by decide +kernel⟩
  obtain ⟨errors, herrors⟩ := (hiff Rehearsal.overshooting ⟨{}, []⟩).2 ⟨hbounded, .inr hrest⟩
  have hnone : (Rehearsal.halved.performAll Rehearsal.overshooting ⟨{}, []⟩).result.toOption = none := by
    decide +kernel
  rw [herrors] at hnone
  cases hnone

/-- The digits of a number that cannot be read. -/
def tooManyOnes : Text := List.replicate 4301 '1'

theorem length_tooManyOnes : tooManyOnes.length = 4301 := List.length_replicate

/-- Actions may break off although the device answers every call: at an input with too many digits. -/
theorem actions_may_break_off :
    ¬ ∀ (interpreter : Interpreter (List DeviceCall)) (actions : List Text) (site : Site (List DeviceCall)),
      interpreter.device.Answers → interpreter.Scales → interpreter.CanRest →
      ∃ errors, (interpreter.performAll actions site).result = .ok errors := by
  intro h
  have hscales : Rehearsal.halved.Scales := Rehearsal.scales_interpreter _ _
  obtain ⟨errors, herrors⟩ := h Rehearsal.halved
    [Gesture.quoting tooManyOnes "2".toList '\'' "a".toList, "home".toList] ⟨{}, []⟩
    (Rehearsal.answers_device _) hscales ⟨_, rfl⟩
  have hones : ∀ c ∈ tooManyOnes, Text.isDigit c = true := by
    intro c hc
    rw [List.eq_of_mem_replicate hc]
    decide +kernel
  have htwo : ∀ c ∈ "2".toList, Text.isDigit c = true := by
    intro c hc
    rw [show c = '2' from List.mem_singleton.1 hc]
    decide +kernel
  have hparts : Gesture.inputParts? (Gesture.quoting tooManyOnes "2".toList '\'' "a".toList) =
      some ⟨tooManyOnes, "2".toList, Gesture.unquoted "a".toList⟩ :=
    Gesture.inputParts?_quoting (List.ne_nil_of_length_pos (by rw [length_tooManyOnes]; decide)) hones
      (by decide) htwo (by decide) (by decide)
  have hunbounded : ¬Rehearsal.halved.Bounded
      (Text.trim (Gesture.quoting tooManyOnes "2".toList '\'' "a".toList)) := by
    rw [Gesture.trim_quoting (by decide), Bounded, Gesture.ofAction_quoting]
    intro hbounded
    obtain ⟨⟨value, hvalue, -⟩, -⟩ := hbounded _ hparts
    rw [Placeholder.readDigits?_of_long (by rw [length_tooManyOnes]; decide) hones] at hvalue
    cases hvalue
  obtain ⟨error, -, hfail⟩ := performAll_exceeds hscales hunbounded ["home".toList]
  rw [hfail] at herrors
  cases herrors

end Interpreter

end ScreenScript
