import ScreenScript.Proofs.Device.Orders

/-!
# What the device types

The `input` program of the device makes a space of each `%s` in the word that it types, which is how a space
reaches it. It cannot know who wrote the `%s`. A text that is typed at once and has a `%s` of its own is
therefore typed with a space instead; typed character by character, the two characters of it never meet.

* `Shell.unspaced` — what is typed for a word
* `Bridge.typed?` — what the device types for commands of the bridge
* `Bridge.typed?_typeAtOnce`, `Bridge.typed?_typeSlowly` — what comes of the two ways of typing
* `Bridge.ways_type_alike_iff` — they type the same just if there is no `%s` in the text
-/

namespace ScreenScript

namespace Shell

/-! ## Spaces -/

variable {c d : Char} {t : Text}

/-- What is typed for a word: a space for each `%s`, and every other character as it is. -/
def unspaced : Text → Text
  | [] => []
  | [c] => [c]
  | c :: d :: rest => if c = '%' ∧ d = 's' then ' ' :: unspaced rest else c :: unspaced (d :: rest)

/-- A character stays if it does not begin a `%s`. -/
theorem unspaced_cons (h : c = '%' → t.head? ≠ some 's') : unspaced (c :: t) = c :: unspaced t := by
  cases t with
  | nil => rfl
  | cons d rest => rw [unspaced, if_neg fun hs => h hs.1 (congrArg some hs.2)]

/-- The `%s` that stand for spaces begin with no other character than the text does. -/
theorem head?_spaced : (spaced t).head? = some 's' ↔ t.head? = some 's' := by
  cases t with
  | nil => rfl
  | cons c rest =>
    rw [spaced, List.flatMap_cons, spacedChar]
    split
    · next h => simp [h]
    · rfl

/-- The spaces come back, and a `%s` that was in the text before becomes one as well. -/
theorem unspaced_spaced (t : Text) : unspaced (spaced t) = unspaced t := by
  fun_induction unspaced t with
  | case1 => rfl
  | case2 c =>
    by_cases h : c = ' '
    · subst h
      rfl
    · simp [spaced, spacedChar, h, unspaced]
  | case3 c d rest h ih =>
    obtain ⟨rfl, rfl⟩ := h
    have hspaced : spaced ('%' :: 's' :: rest) = '%' :: 's' :: spaced rest := rfl
    rw [hspaced, unspaced, if_pos ⟨rfl, rfl⟩, ih]
  | case4 c d rest h ih =>
    by_cases hc : c = ' '
    · subst hc
      have hspaced : spaced (' ' :: d :: rest) = '%' :: 's' :: spaced (d :: rest) := rfl
      rw [hspaced, unspaced, if_pos ⟨rfl, rfl⟩, ih]
    · have hspaced : spaced (c :: d :: rest) = c :: spaced (d :: rest) := by
        rw [spaced, List.flatMap_cons, spacedChar, if_neg hc]
        rfl
      have hhead : c = '%' → (spaced (d :: rest)).head? ≠ some 's' := fun hpercent hs =>
        h ⟨hpercent, Option.some.inj (head?_spaced.1 hs)⟩
      rw [hspaced, unspaced_cons hhead, ih]

/-- What is typed for a text is the text just if there is no `%s` in it. -/
theorem unspaced_eq_self_iff (t : Text) : unspaced t = t ↔ ¬ "%s".toList <:+: t := by
  rw [show "%s".toList = ['%', 's'] by decide]
  fun_induction unspaced t with
  | case1 => simp
  | case2 c => simp [List.infix_cons_iff]
  | case3 c d rest h ih =>
    obtain ⟨rfl, rfl⟩ := h
    simp [List.infix_cons_iff]
  | case4 c d rest h ih =>
    have hprefix : ¬ ['%', 's'] <+: c :: d :: rest := by
      simpa [List.cons_prefix_cons, eq_comm] using h
    calc c :: unspaced (d :: rest) = c :: d :: rest
        ↔ unspaced (d :: rest) = d :: rest := List.cons_inj_right c
      _ ↔ ¬ ['%', 's'] <:+: d :: rest := ih
      _ ↔ ¬ ['%', 's'] <:+: c :: d :: rest := by simp only [List.infix_cons_iff, hprefix, false_or]

/-! ## Lines for typing -/

/-- What the device types for a line of its shell, if that is a line for typing: nothing if there is no word
to type. -/
def typed? (line : Text) : Option Text :=
  match words? line with
  | some (program :: order :: arguments) =>
    if program = "input".toList ∧ order = "text".toList ∧ arguments.length ≤ 1 then
      some (unspaced arguments.flatten)
    else
      none
  | _ => none

example : typed? "input text it''\"'\"''s%sme".toList = some "it's me".toList := by decide

/-- A line with a word to type. -/
theorem typed?_of_words {line word : Text} (h : words? line = some ["input".toList, "text".toList, word]) :
    typed? line = some (unspaced word) := by
  rw [typed?, h]
  simp

end Shell

namespace Bridge

variable {bridge : Bridge} {t : Text} {history : History}

/-! ## Commands for typing -/

/-- What the device types for a command of the bridge, if that is a command for typing. -/
def typedBy? (bridge : Bridge) (command : List Text) : Option Text :=
  let start := bridge.fullCommand ["shell".toList]
  if start <+: command then Shell.typed? ([' '].intercalate (command.drop start.length)) else none

/-- What the device types for commands one after the other, if they all are for typing. -/
def typed? (bridge : Bridge) : List (List Text) → Option Text
  | [] => some []
  | command :: rest => do return (← bridge.typedBy? command) ++ (← bridge.typed? rest)

/-- The shell of the device reads what stands behind the name of the shell. -/
theorem typedBy?_fullCommand (bridge : Bridge) (arguments : List Text) :
    bridge.typedBy? (bridge.fullCommand ("shell".toList :: arguments)) =
      Shell.typed? ([' '].intercalate arguments) := by
  have hsplit : bridge.fullCommand ("shell".toList :: arguments) =
      bridge.fullCommand ["shell".toList] ++ arguments := by
    rw [fullCommand, fullCommand, withDevice, withDevice]
    cases bridge.serial <;> rfl
  simp only [typedBy?, hsplit, List.prefix_append, if_true, List.drop_left]

theorem typedBy?_of_tells {command : List Text} {word : Text} (h : bridge.Tells command (.type word)) :
    bridge.typedBy? command = some (Shell.unspaced word) := by
  obtain ⟨arguments, rfl, hwords⟩ := h
  rw [typedBy?_fullCommand]
  exact Shell.typed?_of_words hwords

/-- The command for typing a text. -/
theorem typedBy?_typing (bridge : Bridge) (t : Text) :
    bridge.typedBy? (bridge.fullCommand (typing t)) = some (Shell.unspaced t) := by
  cases t with
  | nil =>
    -- behind the name of the order there is only the space that would stand before a word
    rw [typing, shell, List.cons_append, typedBy?_fullCommand]
    decide
  | cons c rest => rw [typedBy?_of_tells (tells_typing (List.cons_ne_nil c rest)), Shell.unspaced_spaced]

/-- Commands that type one character each. -/
theorem typed?_map_typing (bridge : Bridge) (t : Text) :
    bridge.typed? (t.map fun c => bridge.fullCommand (typing [c])) = some t := by
  induction t with
  | nil => rfl
  | cons c rest ih =>
    rw [List.map_cons, typed?, typedBy?_typing, ih]
    rfl

/-! ## Texts that can be typed -/

/-- The character zero needs quotes, and is not lost in them. -/
theorem null_mem_typedWord_iff : '\x00' ∈ t.typedWord ↔ '\x00' ∈ t := by
  have hchar : ∀ c, '\x00' ∈ Text.typedChar c ↔ '\x00' = c := by
    intro c
    rw [Text.typedChar, Text.quoteChar]
    split
    · next h => simp [h]
    · split
      · simp
      · split
        · next h => simp [h]
        · simp
  rw [Text.typedWord, List.mem_flatMap]
  constructor
  · rintro ⟨c, hc, hnull⟩
    rwa [(hchar c).1 hnull]
  · exact fun hnull => ⟨_, hnull, (hchar _).2 rfl⟩

/-- A text can be typed if nothing else is in the way and it has no character zero. -/
theorem isRunnable_typing_iff :
    bridge.isRunnable (typing t) = true ↔ bridge.isRunnable (typing []) = true ∧ '\x00' ∉ t := by
  have hsplit : ∀ u : Text, bridge.fullCommand (typing u) =
      bridge.fullCommand (shell ["input", "text"] []) ++ [u.typedWord] := by
    intro u
    rw [fullCommand, fullCommand, withDevice, withDevice]
    cases bridge.serial <;> rfl
  have hnil : Text.typedWord [] = [] := rfl
  simp [isRunnable, hsplit, hnil, null_mem_typedWord_iff]

/-- A text is typed at once if it can be typed character by character. -/
theorem isRunnable_typing_of_forall (hne : t ≠ []) (h : ∀ c ∈ t, bridge.isRunnable (typing [c]) = true) :
    bridge.isRunnable (typing t) = true := by
  obtain ⟨first, hfirst⟩ := List.exists_mem_of_ne_nil t hne
  refine isRunnable_typing_iff.2 ⟨(isRunnable_typing_iff.1 (h first hfirst)).1, fun hnull => ?_⟩
  exact (isRunnable_typing_iff.1 (h _ hnull)).2 List.mem_cons_self

/-! ## The two ways of typing -/

/-- If a text can be typed slowly, nothing of it is in the way of typing it at once. -/
theorem isRunnable_of_typeEach (h : (bridge.typeEach t history).result = .ok true) (hne : t ≠ []) :
    bridge.isRunnable (typing t) = true := by
  obtain ⟨typed, -, -, hrunnable, hall⟩ := typeEach_typed bridge t history
  rw [hall h] at hrunnable
  exact isRunnable_typing_of_forall hne hrunnable

/-- Typed at once, a text arrives with a space for each `%s` in it, if it can be typed. -/
theorem typed?_typeAtOnce (h : t.trim ≠ [] → bridge.isRunnable (typing t.trim) = true) (history : History) :
    bridge.typed? (commandsOf (bridge.typeAtOnce t history).trace) = some (Shell.unspaced t.trim) := by
  rw [commandsOf_typeAtOnce]
  cases hrunnable : bridge.isRunnable (typing t.trim) with
  | true =>
    rw [issued_of_runnable hrunnable, typed?, typedBy?_typing]
    exact congrArg some (List.append_nil _)
  | false =>
    have hnil : t.trim = [] := by
      by_contra hne
      rw [h hne] at hrunnable
      cases hrunnable
    rw [issued_of_unrunnable hrunnable, hnil]
    rfl

/-- Typed slowly, a text is typed character by character. -/
theorem result_typeEach_of_typeSlowly (h : (bridge.typeSlowly t history).result = .ok true) :
    (bridge.typeEach t.trim history).result = .ok true := by
  rw [typeSlowly, Routine.bind_of_ok (by rfl)] at h
  exact h

/-- Typed character by character, a text arrives as it is. -/
theorem typed?_typeSlowly (h : (bridge.typeSlowly t history).result = .ok true) :
    bridge.typed? (commandsOf (bridge.typeSlowly t history).trace) = some t.trim := by
  obtain ⟨typed, -, htyped, -, hall⟩ := typeEach_typed bridge t.trim history
  rw [commandsOf_typeSlowly, htyped, hall (result_typeEach_of_typeSlowly h), typed?_map_typing]

/-- **The two ways of typing differ in `%s`.** Typed at once, a text arrives trimmed and with a space for
each `%s` in it; typed character by character, if that goes well, it arrives trimmed and otherwise as it is.
So the two ways agree on the text just if there is no `%s` in it. -/
theorem ways_type_alike_iff {earlier : History} (h : (bridge.typeSlowly t history).result = .ok true) :
    bridge.typed? (commandsOf (bridge.typeAtOnce t earlier).trace) = some (Shell.unspaced t.trim) ∧
      bridge.typed? (commandsOf (bridge.typeSlowly t history).trace) = some t.trim ∧
      (bridge.typed? (commandsOf (bridge.typeAtOnce t earlier).trace) =
          bridge.typed? (commandsOf (bridge.typeSlowly t history).trace) ↔
        ¬ "%s".toList <:+: t.trim) := by
  have hatOnce : bridge.typed? (commandsOf (bridge.typeAtOnce t earlier).trace) =
      some (Shell.unspaced t.trim) :=
    typed?_typeAtOnce (isRunnable_of_typeEach (result_typeEach_of_typeSlowly h)) earlier
  refine ⟨hatOnce, typed?_typeSlowly h, ?_⟩
  rw [hatOnce, typed?_typeSlowly h, Option.some_inj]
  exact Shell.unspaced_eq_self_iff t.trim

/-- A text with spaces and a `%s` of its own. -/
theorem ways_type_alike_iff_of_percent :
    (obedient.typeSlowly " 5%sure so ".toList []).result = .ok true ∧
      commandsOf (obedient.typeAtOnce " 5%sure so ".toList []).trace =
        [["adb".toList, "shell".toList, "input".toList, "text".toList, "5%sure%sso".toList]] ∧
      Shell.unspaced (Text.trim " 5%sure so ".toList) = "5 ure so".toList ∧
      (obedient.typed? (commandsOf (obedient.typeAtOnce " 5%sure so ".toList []).trace) =
          some (Shell.unspaced (Text.trim " 5%sure so ".toList)) ∧
        obedient.typed? (commandsOf (obedient.typeSlowly " 5%sure so ".toList []).trace) =
          some (Text.trim " 5%sure so ".toList) ∧
        (obedient.typed? (commandsOf (obedient.typeAtOnce " 5%sure so ".toList []).trace) =
            obedient.typed? (commandsOf (obedient.typeSlowly " 5%sure so ".toList []).trace) ↔
          ¬ "%s".toList <:+: Text.trim " 5%sure so ".toList)) := by
  have h : (obedient.typeSlowly " 5%sure so ".toList []).result = .ok true := by decide +kernel
  exact ⟨h, by decide +kernel, by decide +kernel, ways_type_alike_iff h⟩

/-- The two ways of typing need not agree, although every command goes well. -/
theorem ways_of_typing_may_differ :
    ¬ ∀ (bridge : Bridge) (t : Text) (history : History),
      (∀ earlier command, bridge.isRunnable command = true →
        (bridge.succeeds command earlier).result = .ok true) →
      (bridge.typeAtOnce t history).result = .ok true → (bridge.typeSlowly t history).result = .ok true →
      bridge.typed? (commandsOf (bridge.typeAtOnce t history).trace) =
          bridge.typed? (commandsOf (bridge.typeSlowly t history).trace) ∧
        bridge.typed? (commandsOf (bridge.typeAtOnce t history).trace) = some t.trim := by
  intro h
  have hgood (earlier : History) (command : BridgeCommand) (hrunnable : obedient.isRunnable command = true) :
      (obedient.succeeds command earlier).result = .ok true := by
    have hended : (obedient.execute command).Yields earlier (0, .octets []) _ _ :=
      Routine.yields_of_result (by rw [execute_apply hrunnable]; rfl)
    have hattempt : ((obedient.execute command).attempt ownFault earlier).result = .ok (.ok (0, .octets [])) :=
      Routine.result_attempt_of_ok hended.result
    have hrun : (obedient.run command earlier).result = .ok (true, []) := by
      rw [run, Routine.bind_of_ok hattempt]
      rfl
    rw [succeeds, Routine.bind_of_ok hrun]
    rfl
  have hsame := (h obedient "a%sb".toList [] hgood (by decide +kernel) (by decide +kernel)).1
  revert hsame
  decide +kernel

end Bridge

end ScreenScript
