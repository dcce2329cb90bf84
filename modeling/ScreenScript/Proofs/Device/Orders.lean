import ScreenScript.Proofs.Device.Shell
import ScreenScript.Proofs.Routine
import ScreenScript.Run.Interpreter
import ScreenScript.Device.Bridge

/-!
# What the device is told

Everything that an action of the service asks for reaches the device as a line for its shell. Whatever the
action is, the line starts the `input` program with the words of one of four orders, and a text to be typed
is one word of it. So no text that comes from the service is ever taken for a command.

* `Bridge.Order` — the orders, and the words of each
* `Bridge.Tells` — a command of the bridge that the shell of the device reads as an order
* `Bridge.commands_are_orders` — there are no other commands for actions and for typing
-/

namespace ScreenScript

/-- The command that the bridge runs, if the event is that. -/
def Event.command? : Event → Option (List Text)
  | .ran command => some command
  | _ => none

/-- The commands that the bridge runs, in order. -/
def commandsOf (events : List Event) : List (List Text) := events.filterMap Event.command?

theorem mem_commandsOf {events : List Event} {command : List Text} :
    command ∈ commandsOf events ↔ .ran command ∈ events := by
  rw [commandsOf, List.mem_filterMap]
  constructor
  · rintro ⟨event, hmem, hevent⟩
    cases event with
    | ran words =>
      obtain rfl := Option.some.inj hevent
      exact hmem
    | _ => cases hevent
  · exact fun hmem => ⟨_, hmem, rfl⟩

namespace Bridge

/-! ## Orders -/

/-- What the `input` program of the device can be asked for. -/
inductive Order
  /-- tap a point -/
  | tap (x y : Int)
  /-- swipe from one point to another -/
  | swipe (x₁ y₁ x₂ y₂ duration : Int)
  /-- press the key with a code -/
  | press (code : Int)
  /-- type a word, in which `%s` stands for a space -/
  | type (word : Text)
  deriving DecidableEq, Repr

/-- The words of the command line. -/
def Order.words : Order → List Text
  | tap x y => ["input".toList, "tap".toList, Text.ofInt x, Text.ofInt y]
  | swipe x₁ y₁ x₂ y₂ duration =>
    ["input".toList, "swipe".toList, Text.ofInt x₁, Text.ofInt y₁, Text.ofInt x₂, Text.ofInt y₂,
      Text.ofInt duration]
  | press code => ["input".toList, "keyevent".toList, Text.ofInt code]
  | type word => ["input".toList, "text".toList, word]

/-- The bridge runs this command, and the shell of the device, which gets the arguments joined with
spaces, reads it as the order and nothing else. -/
def Tells (bridge : Bridge) (command : List Text) (order : Order) : Prop :=
  ∃ arguments, command = bridge.fullCommand ("shell".toList :: arguments) ∧
    Shell.words? ([' '].intercalate arguments) = some order.words

variable {bridge : Bridge}

/-- The words of a command are read as they stand, and its arguments as their values. -/
theorem tells_shell {words : List String} {arguments values : List Text} {order : Order}
    (hwords : List.Forall₂ Shell.Gives (words.map String.toList) (words.map String.toList))
    (harguments : List.Forall₂ Shell.Gives arguments values)
    (horder : order.words = words.map String.toList ++ values) :
    bridge.Tells (bridge.fullCommand (shell words arguments)) order := by
  refine ⟨_, rfl, ?_⟩
  rw [horder]
  exact Shell.words?_intercalate (List.rel_append hwords harguments)

/-- The names of the program and of its orders need no quotes. -/
theorem gives_names {name : String} (h : name ∈ ["tap", "swipe", "keyevent", "text"]) :
    List.Forall₂ Shell.Gives (["input", name].map String.toList)
      (["input", name].map String.toList) := by
  have hbare : ∀ name ∈ ["input", "tap", "swipe", "keyevent", "text"],
      name.toList ≠ [] ∧ name.toList.all Text.isBare = true := by decide
  obtain ⟨hne, hname⟩ := hbare name (List.mem_cons_of_mem _ h)
  obtain ⟨hne', hinput⟩ := hbare "input" List.mem_cons_self
  exact .cons (Shell.gives_of_bare hne' (List.all_eq_true.1 hinput))
    (.cons (Shell.gives_of_bare hne (List.all_eq_true.1 hname)) .nil)

theorem gives_integers (values : List Int) :
    List.Forall₂ Shell.Gives (values.map Text.ofInt) (values.map Text.ofInt) := by
  induction values with
  | nil => exact .nil
  | cons value values ih => exact .cons (Shell.gives_ofInt value) ih

theorem tells_tap (x y : Int) :
    bridge.Tells (bridge.fullCommand (shell ["input", "tap"] [Text.ofInt x, Text.ofInt y])) (.tap x y) :=
  tells_shell (gives_names (by decide)) (gives_integers [x, y]) rfl

theorem tells_swipe (x₁ y₁ x₂ y₂ duration : Int) :
    bridge.Tells (bridge.fullCommand (shell ["input", "swipe"]
      ([x₁, y₁, x₂, y₂, duration].map Text.ofInt))) (.swipe x₁ y₁ x₂ y₂ duration) :=
  tells_shell (gives_names (by decide)) (gives_integers [x₁, y₁, x₂, y₂, duration]) rfl

theorem tells_press (code : Nat) :
    bridge.Tells (bridge.fullCommand (shell ["input", "keyevent"] [Text.ofNat code])) (.press code) :=
  tells_shell (gives_names (by decide)) (gives_integers [code]) rfl

theorem tells_typing {t : Text} (h : t ≠ []) :
    bridge.Tells (bridge.fullCommand (typing t)) (.type (Shell.spaced t)) :=
  tells_shell (gives_names (by decide)) (.cons (Shell.gives_typedWord h) .nil) rfl

theorem tells_typing_singleton (c : Char) :
    bridge.Tells (bridge.fullCommand (typing [c])) (.type (Shell.spacedChar c)) := by
  have htells : bridge.Tells _ _ := tells_typing (List.cons_ne_nil c [])
  rwa [Shell.spaced, List.flatMap_singleton] at htells

/-! ## Commands of the bridge -/

variable {history : History}

/-- What comes of a command that can be run. -/
theorem execute_apply {command : BridgeCommand} (h : bridge.isRunnable command = true) (history : History) :
    bridge.execute command history =
      match bridge.replies history (bridge.withDevice command) with
      | .missing => ⟨.error (.bridge (.notFound bridge.program)), bridge.withDevice command :: history,
          [.ran (bridge.fullCommand command)], []⟩
      | .silent => ⟨.error (.bridge (.timedOut (bridge.fullCommand command))),
          bridge.withDevice command :: history, [.ran (bridge.fullCommand command), .stopped], []⟩
      | .ended code output => ⟨.ok (code, output), bridge.withDevice command :: history,
          [.ran (bridge.fullCommand command)], []⟩ := by
  have hreply : bridge.execute command history =
      Outcome.behind ⟨.ok (), bridge.withDevice command :: history,
        [.ran (bridge.fullCommand command)], []⟩
        ((match bridge.replies history (bridge.withDevice command) with
          | .missing => Routine.fail (.bridge (.notFound bridge.program))
          | .silent => do
            Routine.emit .stopped
            Routine.fail (.bridge (.timedOut (bridge.fullCommand command)))
          | .ended code output => return (code, output) : Routine History (Int × Content))
          (bridge.withDevice command :: history)) := by
    rw [execute, if_pos h]
    rfl
  rw [hreply]
  cases bridge.replies history (bridge.withDevice command) <;> rfl

/-- A command that cannot be run is not run. -/
theorem execute_of_unrunnable {command : BridgeCommand} (h : bridge.isRunnable command = false) :
    bridge.execute command = Routine.fail (.unrunnable (bridge.fullCommand command)) := by
  rw [execute, if_neg (ne_true_of_eq_false h)]

/-- What is run for a command: the command, if it can be run. -/
def issued (bridge : Bridge) (command : BridgeCommand) : List (List Text) :=
  if bridge.isRunnable command then [bridge.fullCommand command] else []

theorem issued_of_runnable {command : BridgeCommand} (h : bridge.isRunnable command = true) :
    bridge.issued command = [bridge.fullCommand command] :=
  if_pos h

theorem issued_of_unrunnable {command : BridgeCommand} (h : bridge.isRunnable command = false) :
    bridge.issued command = [] :=
  if_neg (ne_true_of_eq_false h)

theorem mem_issued {command : BridgeCommand} {words : List Text} (h : words ∈ bridge.issued command) :
    words = bridge.fullCommand command := by
  rw [issued] at h
  split at h
  · exact List.mem_singleton.1 h
  · cases h

theorem commandsOf_execute (bridge : Bridge) (command : BridgeCommand) (history : History) :
    commandsOf (bridge.execute command history).trace = bridge.issued command := by
  cases hrunnable : bridge.isRunnable command with
  | false =>
    rw [execute_of_unrunnable hrunnable, issued_of_unrunnable hrunnable]
    rfl
  | true =>
    rw [execute_apply hrunnable, issued_of_runnable hrunnable]
    split <;> rfl

/-- Whether a command went well is not known if it cannot be run. -/
theorem result_succeeds_of_unrunnable {command : BridgeCommand} (h : bridge.isRunnable command = false)
    (history : History) :
    (bridge.succeeds command history).result = .error (.unrunnable (bridge.fullCommand command)) := by
  have hattempt : ((bridge.execute command).attempt ownFault history).result =
      .error (.unrunnable (bridge.fullCommand command)) := by
    rw [execute_of_unrunnable h]
    rfl
  have hrun : (bridge.run command history).result = .error (.unrunnable (bridge.fullCommand command)) := by
    rw [run, Routine.bind_of_error hattempt]
  rw [succeeds, Routine.bind_of_error hrun]

/-- A command is run once if it can be run, whatever it meets. -/
theorem commandsOf_succeeds (bridge : Bridge) (command : BridgeCommand) (history : History) :
    commandsOf (bridge.succeeds command history).trace = bridge.issued command := by
  have hrun : (bridge.succeeds command history).trace = (bridge.execute command history).trace := by
    refine (Routine.effect_bind (Routine.effect_bind ⟨rfl, Routine.trace_attempt _ _ _⟩ fun reply => ?_)
      fun _ => Routine.silent_pure).2
    rcases reply with fault | ⟨code, raw⟩
    · exact Routine.silent_bind Routine.silent_say fun _ => Routine.silent_pure
    · dsimp only
      split
      · exact Routine.silent_bind Routine.silent_say fun _ => Routine.silent_pure
      · exact Routine.silent_pure
  rw [hrun, commandsOf_execute]

/-! ## Typing -/

theorem commandsOf_append (xs ys : List Event) :
    commandsOf (xs ++ ys) = commandsOf xs ++ commandsOf ys :=
  List.filterMap_append

/-- A pause runs no command. -/
theorem commandsOf_pause {σ : Type} (milliseconds : Scalar) (s : σ) :
    commandsOf (Routine.pause milliseconds s).trace = [] := by
  rw [Routine.pause]
  rcases Pause.seconds milliseconds with error | _ | seconds <;> rfl

/-- The text is typed at once, by a single command. -/
theorem commandsOf_typeAtOnce (bridge : Bridge) (t : Text) (history : History) :
    commandsOf (bridge.typeAtOnce t history).trace = bridge.issued (typing t.trim) := by
  rw [typeAtOnce, Routine.bind_of_ok (by rfl)]
  exact commandsOf_succeeds bridge (typing t.trim) history

/-- Characters are typed one by one, up to some of them, and all of them if that goes well. -/
theorem typeEach_typed (bridge : Bridge) (t : Text) (history : History) :
    ∃ typed, typed <+: t ∧ commandsOf (bridge.typeEach t history).trace =
        (typed.map fun c => bridge.fullCommand (typing [c])) ∧
      (∀ c ∈ typed, bridge.isRunnable (typing [c]) = true) ∧
      ((bridge.typeEach t history).result = .ok true → typed = t) := by
  induction t generalizing history with
  | nil => exact ⟨[], List.prefix_refl [], rfl, nofun, fun _ => rfl⟩
  | cons c rest ih =>
    have hone : [c] <+: c :: rest := ⟨rest, rfl⟩
    have hcommands := commandsOf_succeeds bridge (typing [c]) history
    -- typing stops before a character that no command can type, behind one that is refused, and where the
    -- pause breaks off
    cases hrunnable : bridge.isRunnable (typing [c]) with
    | false =>
      rw [issued_of_unrunnable hrunnable] at hcommands
      rw [typeEach, Routine.bind_of_error (result_succeeds_of_unrunnable hrunnable history)]
      exact ⟨[], List.nil_prefix, hcommands, nofun, fun h => by cases h⟩
    | true =>
      rw [issued_of_runnable hrunnable] at hcommands
      have hrunnables : ∀ d ∈ [c], bridge.isRunnable (typing [d]) = true := by
        intro d hd
        rw [List.mem_singleton.1 hd]
        exact hrunnable
      rw [typeEach]
      cases hok : (bridge.succeeds (typing [c]) history).result with
      | error fault =>
        rw [Routine.bind_of_error hok]
        exact ⟨[c], hone, hcommands, hrunnables, fun h => by cases h⟩
      | ok ok =>
        rw [Routine.bind_of_ok hok, Outcome.behind, commandsOf_append, hcommands]
        cases ok with
        | false => exact ⟨[c], hone, rfl, hrunnables, fun h => by cases h⟩
        | true =>
          rw [if_pos rfl]
          cases hpause : (Routine.pause (.int bridge.intervals.typingDelay)
              (bridge.succeeds (typing [c]) history).state).result with
          | error fault =>
            rw [Routine.bind_of_error hpause, commandsOf_pause]
            exact ⟨[c], hone, rfl, hrunnables, fun h => by cases h⟩
          | ok u =>
            obtain ⟨typed, hprefix, htyped, hall, hwhole⟩ := ih (Routine.pause
              (.int bridge.intervals.typingDelay) (bridge.succeeds (typing [c]) history).state).state
            rw [Routine.bind_of_ok hpause, Outcome.behind, commandsOf_append, commandsOf_pause, htyped]
            exact ⟨c :: typed, List.cons_prefix_cons.2 ⟨rfl, hprefix⟩, rfl,
              List.forall_mem_cons.2 ⟨hrunnable, hall⟩, fun hgood => congrArg (c :: ·) (hwhole hgood)⟩

/-- Characters are typed one by one, up to some of them. -/
theorem commandsOf_typeEach (bridge : Bridge) (t : Text) (history : History) :
    ∃ typed, typed <+: t ∧ commandsOf (bridge.typeEach t history).trace =
      typed.map fun c => bridge.fullCommand (typing [c]) := by
  obtain ⟨typed, hprefix, htyped, -, -⟩ := typeEach_typed bridge t history
  exact ⟨typed, hprefix, htyped⟩

/-- Typing slowly is typing the characters of the trimmed text. -/
theorem commandsOf_typeSlowly (bridge : Bridge) (t : Text) (history : History) :
    commandsOf (bridge.typeSlowly t history).trace =
      commandsOf (bridge.typeEach t.trim history).trace := by
  rw [typeSlowly, Routine.bind_of_ok (by rfl)]
  rfl

/-! ## Actions -/

/-- An order that these actions may lead to: what is typed is a character of the text of an input. -/
def Order.IsFor (actions : List Text) : Order → Prop
  | type word => ∃ action ∈ actions, ∃ parts, Gesture.inputParts? action.trim = some parts ∧
      ∃ c ∈ parts.text.trim, word = Shell.spacedChar c
  | _ => True

/-- If a command is run, it is one of these orders. -/
def Obeys (bridge : Bridge) (allowed : Order → Prop) (event : Event) : Prop :=
  ∀ command, event = .ran command → ∃ order, allowed order ∧ bridge.Tells command order

variable {allowed : Order → Prop}

theorem emits_pause {σ : Type} (milliseconds : Scalar) :
    (Routine.pause milliseconds : Routine σ Unit).Emits (bridge.Obeys allowed) := by
  intro s event hevent command hcommand
  have hmem : command ∈ commandsOf (Routine.pause milliseconds s).trace :=
    mem_commandsOf.2 (hcommand ▸ hevent)
  rw [commandsOf_pause] at hmem
  cases hmem

/-- A command that is an order. -/
theorem emits_succeeds {command : BridgeCommand} {order : Order} (h : allowed order)
    (htells : bridge.Tells (bridge.fullCommand command) order) :
    (bridge.succeeds command).Emits (bridge.Obeys allowed) := by
  intro history event hevent command' hcommand
  have hmem : command' ∈ commandsOf (bridge.succeeds command history).trace :=
    mem_commandsOf.2 (hcommand ▸ hevent)
  rw [commandsOf_succeeds] at hmem
  exact ⟨order, h, mem_issued hmem ▸ htells⟩

theorem emits_typeSlowly {t : Text} (h : ∀ c ∈ t.trim, allowed (.type (Shell.spacedChar c))) :
    (bridge.typeSlowly t).Emits (bridge.Obeys allowed) := by
  intro history event hevent command hcommand
  have hmem : command ∈ commandsOf (bridge.typeSlowly t history).trace :=
    mem_commandsOf.2 (hcommand ▸ hevent)
  obtain ⟨typed, hprefix, htyped⟩ := commandsOf_typeEach bridge t.trim history
  rw [commandsOf_typeSlowly, htyped] at hmem
  obtain ⟨c, hc, rfl⟩ := List.mem_map.1 hmem
  exact ⟨_, h c (List.IsPrefix.subset hprefix hc), tells_typing_singleton c⟩

/-- An interpreter whose device is behind the bridge. -/
def interpreter (bridge : Bridge) (factor : Scalar) (delay : Int) : Interpreter History where
  device := bridge.device
  factor := factor
  delay := delay

variable {factor : Scalar} {delay : Int}

theorem emits_tap (x y : Int) (h : ∀ x y, allowed (.tap x y)) :
    (bridge.device.tap x y).Emits (bridge.Obeys allowed) := by
  refine Routine.emits_within (Routine.emits_bind Routine.silent_say.emits fun _ => ?_)
  exact emits_succeeds (h x y) (tells_tap x y)

theorem emits_swipe (x₁ y₁ x₂ y₂ : Int) (h : allowed (.swipe x₁ y₁ x₂ y₂ swipeDuration)) :
    (bridge.device.swipe x₁ y₁ x₂ y₂).Emits (bridge.Obeys allowed) := by
  refine Routine.emits_within (Routine.emits_bind Routine.silent_say.emits fun _ => ?_)
  exact emits_succeeds h (tells_swipe x₁ y₁ x₂ y₂ swipeDuration)

theorem emits_press (code : Nat) (h : ∀ code, allowed (.press code)) :
    (Site.onDevice (bridge.press code)).Emits (bridge.Obeys allowed) :=
  Routine.emits_within (emits_succeeds (h code) (tells_press code))

theorem emits_onScreen (value : Int) :
    ((bridge.interpreter factor delay).onScreen value).Emits (bridge.Obeys allowed) :=
  Routine.silent_ofExcept.emits

theorem emits_sayTap (origin : Text) (x y : Int) :
    ((bridge.interpreter factor delay).sayTap origin x y).Emits (bridge.Obeys allowed) :=
  Routine.emits_bind Routine.silent_ofExcept.emits fun _ => Routine.silent_say.emits

theorem emits_written (digits : Text) :
    (Interpreter.written digits : Routine (Site History) Int).Emits (bridge.Obeys allowed) := by
  rw [Interpreter.written]
  split
  · exact Routine.silent_pure.emits
  · exact Routine.silent_fail.emits

/-- An input leads to a tap and to typing its text. -/
theorem emits_input (action : Text) (parts : Gesture.Input) (htap : ∀ x y, allowed (.tap x y))
    (htype : ∀ c ∈ parts.text.trim, allowed (.type (Shell.spacedChar c))) :
    ((bridge.interpreter factor delay).input action parts).Emits (bridge.Obeys allowed) := by
  refine Routine.emits_bind (emits_written parts.x) fun x => ?_
  refine Routine.emits_bind (emits_onScreen x) fun x => ?_
  refine Routine.emits_bind (emits_written parts.y) fun y => ?_
  refine Routine.emits_bind (emits_onScreen y) fun y => ?_
  refine Routine.emits_bind (emits_sayTap [] x y) fun _ => ?_
  refine Routine.emits_bind (emits_tap x y htap) fun tapped => ?_
  refine Routine.emits_bind (emits_pause _) fun _ => ?_
  refine Routine.emits_bind Routine.silent_say.emits fun _ => ?_
  refine Routine.emits_bind (Routine.emits_within (emits_typeSlowly htype)) fun typed => ?_
  exact Routine.silent_pure.emits

theorem emits_call {m : Routine (Site History) Bool} (h : m.Emits (bridge.Obeys allowed)) :
    (Interpreter.call m).Emits (bridge.Obeys allowed) :=
  Routine.emits_bind h fun _ => Routine.silent_pure.emits

/-- Every order that an action leads to is for it. -/
theorem emits_perform {actions : List Text} {action : Text} (h : action ∈ actions) :
    ((bridge.interpreter factor delay).perform action.trim).Emits
      (bridge.Obeys (Order.IsFor actions)) := by
  rw [Interpreter.perform]
  cases Gesture.ofAction action.trim with
  | home => exact emits_call (emits_press homeKey fun _ => trivial)
  | back => exact emits_call (emits_press backKey fun _ => trivial)
  | recent => exact emits_call (emits_press recentKey fun _ => trivial)
  | tap x y =>
    refine Routine.emits_bind (emits_onScreen x) fun x' => ?_
    refine Routine.emits_bind (emits_onScreen y) fun y' => ?_
    refine Routine.emits_bind (emits_sayTap _ x' y') fun _ => ?_
    exact emits_call (emits_tap x' y' fun _ _ => trivial)
  | swipe x₁ y₁ x₂ y₂ =>
    refine Routine.emits_bind (emits_onScreen x₁) fun x₁' => ?_
    refine Routine.emits_bind (emits_onScreen y₁) fun y₁' => ?_
    refine Routine.emits_bind (emits_onScreen x₂) fun x₂' => ?_
    refine Routine.emits_bind (emits_onScreen y₂) fun y₂' => ?_
    exact emits_call (emits_swipe x₁' y₁' x₂' y₂' trivial)
  | input =>
    cases hparts : Gesture.inputParts? action.trim with
    | none => exact Routine.silent_pure.emits
    | some parts =>
      refine emits_input action.trim parts (fun _ _ => trivial) fun c hc => ?_
      exact ⟨action, h, parts, hparts, c, hc, rfl⟩
  | malformed => exact Routine.silent_pure.emits
  | unknown => exact Routine.emits_bind Routine.silent_say.emits fun _ => Routine.silent_pure.emits

theorem emits_performOne {actions : List Text} {action : Text} (h : action ∈ actions) :
    ((bridge.interpreter factor delay).performOne action).Emits
      (bridge.Obeys (Order.IsFor actions)) := by
  refine Routine.emits_bind (emits_perform h) fun error => ?_
  refine Routine.emits_bind ?_ fun _ => Routine.emits_bind (emits_pause _) fun _ => ?_
  · cases error with
    | none => exact Routine.silent_pure.emits
    | some error => exact Routine.silent_say.emits
  · exact Routine.silent_pure.emits

theorem emits_performAll {actions rest : List Text} (h : ∀ action ∈ rest, action ∈ actions) :
    ((bridge.interpreter factor delay).performAll rest).Emits
      (bridge.Obeys (Order.IsFor actions)) := by
  induction rest with
  | nil => exact Routine.silent_pure.emits
  | cons action rest ih =>
    refine Routine.emits_bind (emits_performOne (h action List.mem_cons_self)) fun error => ?_
    refine Routine.emits_bind (ih fun a ha => h a (List.mem_cons_of_mem _ ha)) fun errors => ?_
    exact Routine.silent_pure.emits

/-! ## No other commands -/

/-- **Commands are orders.** Whatever actions are carried out behind the bridge, and whatever the bridge
replies, the shell of the device reads every command as one of the orders, and what is typed is a character
of the text of an input among the actions. A text that is typed at once is read as one word, with `%s` for
each space, if the command can be run; a text that is typed slowly is read character by character, up to where
it stops. -/
theorem commands_are_orders (bridge : Bridge) :
    (∀ factor delay actions site,
      ∀ command ∈ commandsOf ((bridge.interpreter factor delay).performAll actions site).trace,
        ∃ order, order.IsFor actions ∧ bridge.Tells command order) ∧
    (∀ t history, t.trim ≠ [] → ∃ command,
      commandsOf (bridge.typeAtOnce t history).trace =
          (if bridge.isRunnable (typing t.trim) then [command] else []) ∧
        bridge.Tells command (.type (Shell.spaced t.trim))) ∧
    ∀ t history, ∃ typed, typed <+: t.trim ∧
      List.Forall₂ (fun command c => bridge.Tells command (.type (Shell.spacedChar c)))
        (commandsOf (bridge.typeSlowly t history).trace) typed := by
  refine ⟨?_, ?_, ?_⟩
  · intro factor delay actions site command hcommand
    have hemits : ((bridge.interpreter factor delay).performAll actions).Emits
        (bridge.Obeys (Order.IsFor actions)) := emits_performAll fun _ h => h
    exact hemits site _ (mem_commandsOf.1 hcommand) command rfl
  · intro t history h
    exact ⟨_, commandsOf_typeAtOnce bridge t history, tells_typing h⟩
  · intro t history
    obtain ⟨typed, hprefix, htyped⟩ := commandsOf_typeEach bridge t.trim history
    refine ⟨typed, hprefix, ?_⟩
    rw [commandsOf_typeSlowly, htyped, List.forall₂_map_left_iff]
    exact List.forall₂_same.2 fun c _ => tells_typing_singleton c

/-- A bridge to which everything goes well. -/
def obedient : Bridge where
  program := "adb".toList
  serial := none
  folder := {}
  intervals := {}
  replies _ _ := .ended 0 (.octets [])

/-- A text that would start another program if its quotes and its semicolon were not quoted. -/
theorem commands_are_orders_of_semicolon :
    Text.trim " it's; reboot".toList ≠ [] ∧
      commandsOf (obedient.typeAtOnce " it's; reboot".toList []).trace =
        [["adb".toList, "shell".toList, "input".toList, "text".toList,
          "it''\"'\"''s';'%sreboot".toList]] ∧
      ∃ command, commandsOf (obedient.typeAtOnce " it's; reboot".toList []).trace =
          (if obedient.isRunnable (typing (Text.trim " it's; reboot".toList)) then [command] else []) ∧
        obedient.Tells command (.type (Shell.spaced (Text.trim " it's; reboot".toList))) := by
  have h : Text.trim " it's; reboot".toList ≠ [] := by decide
  exact ⟨h, by decide +kernel, (commands_are_orders obedient).2.1 _ [] h⟩

end Bridge

end ScreenScript
