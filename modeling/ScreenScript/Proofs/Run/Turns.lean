import ScreenScript.Device.Rehearsed
import ScreenScript.Proofs.Run.Gestures

/-!
# Actions in turn

Every action has one turn, in which it does what it asks for and pauses, whatever the device has answered to
the actions before it. An input has a pause of its own between its tap and its typing, and it is the only
action whose refusal is recorded.

* `Interpreter.Turn`, `Interpreter.Linked` — an action in its turn, and turns one after the other
* `Interpreter.Refuses` — an input that is refused, with the error that is recorded
* `Interpreter.performAll_append` — actions behind other actions
* `Interpreter.actions_take_turns` — carrying out actions is to give each of them its turn
-/

namespace ScreenScript

namespace Interpreter

variable {δ : Type}

/-! ## Turns -/

/-- An action in its turn. -/
structure Turn (interpreter : Interpreter δ) where
  /-- the action as it is given -/
  action : Text
  /-- the site it finds -/
  before : Site δ
  /-- the soft error that is recorded -/
  error : Option SoftError
  /-- the site it leaves -/
  after : Site δ
  /-- what happens, up to the pause at the end -/
  calls : List Event
  /-- the action without blanks at its ends does what it asks for -/
  performed : interpreter.Performing action.trim before error after calls

variable {interpreter : Interpreter δ} {site site' : Site δ} {action : Text}

/-- What happens in a turn: what the action does, and one pause behind it. -/
def Turn.events (turn : interpreter.Turn) : List Event :=
  turn.calls ++ Routine.pauseEvents (.int interpreter.delay)

/-- The turns lead from one site to another: each one starts where the one before it has ended. -/
def Linked (interpreter : Interpreter δ) : Site δ → List interpreter.Turn → Site δ → Prop
  | site, [], site' => site' = site
  | site, turn :: turns, site' => turn.before = site ∧ interpreter.Linked turn.after turns site'

/-- Actions that are carried out have their turns. -/
theorem Acting.turns {actions : List Text} {errors : List SoftError} {events : List Event}
    (h : interpreter.Acting actions site errors site' events) :
    ∃ turns : List interpreter.Turn, turns.map Turn.action = actions ∧
      interpreter.Linked site turns site' ∧ events = turns.flatMap Turn.events ∧
      errors = turns.filterMap Turn.error := by
  induction h with
  | nil site => exact ⟨[], rfl, rfl, rfl, rfl⟩
  | @cons action actions site site₁ site' error errors calls later hfirst hrest ih =>
    obtain ⟨turns, rfl, hlinked, rfl, rfl⟩ := ih
    refine ⟨⟨action, site, error, site₁, calls, hfirst⟩ :: turns, rfl, ⟨rfl, hlinked⟩, rfl, ?_⟩
    rw [List.filterMap_cons]
    cases error <;> rfl

/-! ## Soft errors -/

/-- An input is carried out at a point of the screen: it taps and then types its text, and these are the
answers of the device to both. -/
inductive Enters (interpreter : Interpreter δ) (action : Text) (site : Site δ) (parts : Gesture.Input)
    (x' y' : Int) (tapped typed : Bool) : Prop
  | intro {x y : Nat} {site₁ site' : Site δ} {tapping typing : List Event} :
    Gesture.ofAction action = .input → Gesture.inputParts? action = some parts →
    Text.readDigits? parts.x = some x → Text.readDigits? parts.y = some y →
    interpreter.Shows x x' → interpreter.Shows y y' →
    (interpreter.device.tap x' y').Yields site tapped site₁ tapping →
    (interpreter.device.type parts.text).Yields site₁ typed site' typing →
    Enters interpreter action site parts x' y' tapped typed

/-- An input is refused, with this error: that of its typing, or else that of its tap. -/
inductive Refuses (interpreter : Interpreter δ) (action : Text) (site : Site δ) : SoftError → Prop
  /-- the text is not typed, whether the tap went well or not -/
  | typing {parts : Gesture.Input} {x y : Int} {tapped : Bool} :
    interpreter.Enters action site parts x y tapped false →
    Refuses interpreter action site ⟨action, "Error inputting text: ".toList ++ parts.text⟩
  /-- the point is not tapped, but the text is typed -/
  | tapping {parts : Gesture.Input} {x y : Int} :
    interpreter.Enters action site parts x y false true →
    Refuses interpreter action site
      ⟨action, "Error tapping at ".toList ++ Text.ofInt x ++ ", ".toList ++ Text.ofInt y⟩

/-- What an input does at a point depends on nothing but the input and the site. -/
theorem Enters.unique {parts parts' : Gesture.Input} {x y x' y' : Int} {tapped typed tapped' typed' : Bool}
    (h : interpreter.Enters action site parts x y tapped typed)
    (h' : interpreter.Enters action site parts' x' y' tapped' typed') :
    parts = parts' ∧ x = x' ∧ y = y' ∧ tapped = tapped' ∧ typed = typed' := by
  obtain ⟨-, hparts, hx, hy, hxs, hys, htap, htype⟩ := h
  obtain ⟨-, hparts', hx', hy', hxs', hys', htap', htype'⟩ := h'
  obtain rfl := Option.some.inj (hparts.symm.trans hparts')
  obtain rfl := Option.some.inj (hx.symm.trans hx')
  obtain rfl := Option.some.inj (hy.symm.trans hy')
  obtain rfl := Except.ok.inj (hxs.symm.trans hxs')
  obtain rfl := Except.ok.inj (hys.symm.trans hys')
  obtain ⟨rfl, rfl, -⟩ := htap.unique htap'
  obtain ⟨rfl, -, -⟩ := htype.unique htype'
  exact ⟨rfl, rfl, rfl, rfl, rfl⟩

theorem inputError_eq_some {parts : Gesture.Input} {x y : Int} {tapped typed : Bool} {error : SoftError}
    (h : interpreter.Enters action site parts x y tapped typed) :
    inputError action parts x y tapped typed = some error ↔ interpreter.Refuses action site error := by
  rw [inputError]
  constructor
  · intro herror
    cases typed with
    | false =>
      obtain rfl := Option.some.inj herror
      exact .typing h
    | true =>
      cases tapped with
      | false =>
        obtain rfl := Option.some.inj herror
        exact .tapping h
      | true => cases herror
  · intro hrefuses
    cases hrefuses with
    | typing h' =>
      obtain ⟨rfl, rfl, rfl, rfl, rfl⟩ := h.unique h'
      rfl
    | tapping h' =>
      obtain ⟨rfl, rfl, rfl, rfl, rfl⟩ := h.unique h'
      rfl

/-- Only inputs are refused. -/
theorem Refuses.gesture {error : SoftError} (h : interpreter.Refuses action site error) :
    Gesture.ofAction action = .input ∧ ∃ parts, Gesture.inputParts? action = some parts := by
  cases h with
  | typing h =>
    obtain ⟨hgesture, hparts, -⟩ := h
    exact ⟨hgesture, _, hparts⟩
  | tapping h =>
    obtain ⟨hgesture, hparts, -⟩ := h
    exact ⟨hgesture, _, hparts⟩

/-- An error is recorded for an action just if the action is an input that is refused. -/
theorem Performing.error_iff {recorded : Option SoftError} {events : List Event} {error : SoftError}
    (h : interpreter.Performing action site recorded site' events) :
    recorded = some error ↔ interpreter.Refuses action site error := by
  -- where nothing is recorded, the action is no input
  have hnone (hno : ¬(Gesture.ofAction action = .input ∧ ∃ parts, Gesture.inputParts? action = some parts)) :
      none = some error ↔ interpreter.Refuses action site error :=
    ⟨nofun, fun hrefuses => absurd hrefuses.gesture hno⟩
  cases h with
  | key hkey hpress =>
    refine hnone fun hinput => ?_
    rw [hinput.1] at hkey
    cases hkey
  | tap hgesture => exact hnone fun hinput => by rw [hinput.1] at hgesture; cases hgesture
  | swipe hgesture => exact hnone fun hinput => by rw [hinput.1] at hgesture; cases hgesture
  | input hgesture hparts hx hy hxs hys htap htype =>
    exact inputError_eq_some (.intro hgesture hparts hx hy hxs hys htap htype)
  | nothing hnothing =>
    refine hnone fun hinput => ?_
    obtain ⟨hgesture, parts, hparts⟩ := hinput
    rcases hnothing with h | h | ⟨-, h⟩
    · rw [hgesture] at h; cases h
    · rw [hgesture] at h; cases h
    · rw [hparts] at h; cases h

/-! ## All actions -/

/-- Carrying out actions behind other actions. -/
theorem performAll_append (interpreter : Interpreter δ) (xs ys : List Text) :
    interpreter.performAll (xs ++ ys) = (do
      let earlier ← interpreter.performAll xs
      let later ← interpreter.performAll ys
      return earlier ++ later) := by
  induction xs with
  | nil =>
    rw [performAll, Routine.pure_bind]
    exact (Routine.bind_pure _).symm
  | cons action xs ih =>
    rw [List.cons_append, performAll, performAll, ih]
    simp only [Routine.bind_assoc, Routine.pure_bind, List.append_assoc]

/-- **Actions take turns.** Carrying out actions is to give each of them one turn, in order and whatever the
device has answered before, and an action does in its turn what it asks for and pauses once behind that. An
error is recorded in a turn just if the action is an input whose tap or typing has gone wrong; the error names
the action without blanks at its ends, and it is that of the typing or else that of the tap. To carry out
actions behind other actions is to carry out all of them. -/
theorem actions_take_turns (interpreter : Interpreter δ) :
    (∀ actions site errors, (interpreter.performAll actions site).result = .ok errors →
      ∃ turns : List interpreter.Turn, turns.map Turn.action = actions ∧
        interpreter.Linked site turns (interpreter.performAll actions site).state ∧
        (interpreter.performAll actions site).trace = turns.flatMap Turn.events ∧
        errors = turns.filterMap Turn.error ∧
        ∀ turn ∈ turns, ∀ error, turn.error = some error ↔
          interpreter.Refuses turn.action.trim turn.before error) ∧
    ∀ xs ys, interpreter.performAll (xs ++ ys) = (do
      let earlier ← interpreter.performAll xs
      let later ← interpreter.performAll ys
      return earlier ++ later) := by
  refine ⟨?_, interpreter.performAll_append⟩
  intro actions site errors h
  obtain ⟨turns, hactions, hlinked, hevents, herrors⟩ :=
    (acting_of_yields (Routine.yields_of_result h)).turns
  exact ⟨turns, hactions, hlinked, hevents, herrors, fun turn _ _ => turn.performed.error_iff⟩

end Interpreter

namespace Rehearsal

/-- A device that refuses to tap, and to type one of two texts. -/
def clumsy : Answers where
  answer _ call :=
    match call with
    | .tap _ _ => false
    | .type text => text ≠ "b".toList
    | _ => true
  shot _ _ := none
  shotPath := {}

/-- An interpreter for a device with these answers. -/
def interpreter (answers : Answers) (factor : Scalar) (delay : Int) : Interpreter (List DeviceCall) :=
  ⟨device answers, factor, delay⟩

/-- Two inputs with a tap between them, and a key behind them. -/
def clumsily : Outcome (Site (List DeviceCall)) (List SoftError) :=
  (interpreter clumsy (.real .one) 1000).performAll
    ["input 1,2 'a'".toList, "tap 3,4".toList, " input 5,6 'b' ".toList, "home".toList] ⟨{}, []⟩

/-- The errors of the two inputs: one is not tapped, the other one neither tapped nor typed. -/
def clumsiness : List SoftError :=
  [⟨"input 1,2 'a'".toList, "Error tapping at 1, 2".toList⟩,
    ⟨"input 5,6 'b'".toList, "Error inputting text: b".toList⟩]

end Rehearsal

namespace Interpreter

/-- A tap that is refused leaves no error, and no refusal keeps the later actions from their turns. -/
theorem actions_take_turns_of_clumsy :
    Rehearsal.clumsily.result = .ok Rehearsal.clumsiness ∧
      (∃ turns : List (Rehearsal.interpreter Rehearsal.clumsy (.real .one) 1000).Turn,
        Rehearsal.clumsily.trace = turns.flatMap Turn.events ∧
        Rehearsal.clumsiness = turns.filterMap Turn.error ∧ turns.length = 4) ∧
      Rehearsal.clumsily.trace =
        [.called (.tap 1 2), .slept (.int 1000), .called (.type "a".toList), .slept (.int 1000),
          .called (.tap 3 4), .slept (.int 1000),
          .called (.tap 5 6), .slept (.int 1000), .called (.type "b".toList), .slept (.int 1000),
          .called .home, .slept (.int 1000)] := by
  have h : Rehearsal.clumsily.result = .ok Rehearsal.clumsiness :=
    Routine.result_of_toOption (by decide +kernel)
  obtain ⟨turns, hactions, -, htrace, herrors, -⟩ := (actions_take_turns _).1 _ _ _ h
  refine ⟨h, ⟨turns, htrace, herrors, ?_⟩, by decide +kernel⟩
  rw [← List.length_map, hactions]
  rfl

/-- An input pauses twice, so a turn is not always made of calls of the device with one pause behind them. -/
theorem input_has_pause_of_its_own :
    ¬ ∀ (answers : Rehearsal.Answers) (factor : Scalar) (delay : Int) (actions : List Text)
      (site : Site (List DeviceCall)) (errors : List SoftError),
      ((Rehearsal.interpreter answers factor delay).performAll actions site).result = .ok errors →
      ∃ calls : List (List DeviceCall), calls.length = actions.length ∧
        ((Rehearsal.interpreter answers factor delay).performAll actions site).trace =
          calls.flatMap fun made => made.map Event.called ++ Routine.pauseEvents (.int delay) := by
  intro h
  obtain ⟨calls, hlength, htrace⟩ := h Rehearsal.clumsy (.real .one) 1000 ["input 1,2 'x'".toList]
    ⟨{}, []⟩ [⟨"input 1,2 'x'".toList, "Error tapping at 1, 2".toList⟩]
    (Routine.result_of_toOption (by decide +kernel))
  have hevents : ((Rehearsal.interpreter Rehearsal.clumsy (.real .one) 1000).performAll
      ["input 1,2 'x'".toList] ⟨{}, []⟩).trace =
        [.called (.tap 1 2), .slept (.int 1000), .called (.type "x".toList), .slept (.int 1000)] := by
    decide +kernel
  have hpause : Routine.pauseEvents (.int 1000) = [.slept (.int 1000)] := by decide +kernel
  obtain ⟨made, rfl⟩ := List.length_eq_one_iff.1 hlength
  rw [hevents, List.flatMap_singleton, hpause] at htrace
  -- behind the first call there would have to be another one, or nothing more
  rcases made with _ | ⟨first, _ | ⟨second, rest⟩⟩ <;> simp at htrace

end Interpreter

end ScreenScript
