import Mathlib.Data.List.TakeWhile
import ScreenScript.Device.Rehearsed
import ScreenScript.Proofs.Run.Gestures
import ScreenScript.Proofs.Text.Trimming

/-!
# How far the text of an input goes

The text of an input stands in quotes of either kind, and it ends at the next quote of either kind, whichever
it began with. So the device types the whole text if there is no quote in it, and otherwise what stands before
the first one, although the text may well end with the quote that it began with.

* `Gesture.quoting` — the input that has a text in quotes
* `Gesture.inputParts?_quoting` — its parts
* `Interpreter.typeAt` — tapping a point and typing a text
* `Interpreter.input_types_up_to_quote` — this is what such an input does
-/

namespace ScreenScript

/-! ## Digits -/

namespace Text

variable {t : Text}

/-- What is read as digits consists of digits. -/
theorem isDigit_of_readDigits? {n : Nat} (h : readDigits? t = some n) : ∀ c ∈ t, isDigit c = true := by
  have hvalues : (digitValues? t).isSome := by
    rw [readDigits?] at h
    cases hv : digitValues? t with
    | none =>
      rw [hv] at h
      cases h
    | some values => rfl
  clear h
  induction t with
  | nil => nofun
  | cons c rest ih =>
    rw [digitValues?] at hvalues
    cases hc : digitValue? c with
    | none => simp [hc] at hvalues
    | some value =>
      cases hrest : digitValues? rest with
      | none => simp [hc, hrest] at hvalues
      | some values =>
        intro d hd
        rcases List.mem_cons.1 hd with rfl | hd
        · rw [isDigit, hc]
          rfl
        · exact ih (by rw [hrest]; rfl) d hd

end Text

/-! ## Inputs with a quoted text -/

namespace Gesture

/-- The input whose point these digits give and whose text stands in these quotes. -/
def quoting (x y : Text) (quote : Char) (t : Text) : Text :=
  "input ".toList ++ x ++ ',' :: y ++ ' ' :: quote :: (t ++ [quote])

/-- What stands before the first quote of either kind. -/
def unquoted (t : Text) : Text := t.takeWhile fun c => !isQuote c

/-- A text without quotes is left whole, and no other one is. -/
theorem unquoted_eq_self_iff {t : Text} : unquoted t = t ↔ ∀ c ∈ t, isQuote c = false := by
  rw [unquoted, List.takeWhile_eq_self_iff]
  simp only [Bool.not_eq_true']

variable {x y t : Text} {quote stop : Char}

theorem isBlank_of_isQuote (h : isQuote quote = true) : Text.isBlank quote = false := by
  rw [isQuote, Bool.or_eq_true, decide_eq_true_eq, decide_eq_true_eq] at h
  rcases h with rfl | rfl <;> decide

/-- Digits are read up to the character behind them. -/
theorem digitsUpTo?_append {rest : Text} (hx : x ≠ []) (hdigits : ∀ c ∈ x, Text.isDigit c = true)
    (hstop : Text.isDigit stop = false) : digitsUpTo? stop (x ++ stop :: rest) = some (x, rest) := by
  have htake : (x ++ stop :: rest).takeWhile Text.isDigit = x := by
    rw [List.takeWhile_append_of_pos hdigits, List.takeWhile_cons_of_neg (by simp [hstop]),
      List.append_nil]
  have hdrop : (x ++ stop :: rest).dropWhile Text.isDigit = stop :: rest := by
    rw [List.dropWhile_append_of_pos hdigits, List.dropWhile_cons_of_neg (by simp [hstop])]
  rw [digitsUpTo?, htake, hdrop]
  cases x with
  | nil => exact absurd rfl hx
  | cons c x => simp

/-- A quoted text ends somewhere, and it is what stands before that. -/
theorem quoted?_eq (hquote : isQuote quote = true) (hline : '\n' ∉ t) :
    quoted? (quote :: (t ++ [quote])) = some (unquoted t) := by
  -- on the line there is nothing but quotes and what the text goes over
  have hends : ∃ stop rest, isQuote stop = true ∧
      (t ++ [quote]).dropWhile (fun c => !isQuote c && c ≠ '\n') = stop :: rest ∧
      (t ++ [quote]).takeWhile (fun c => !isQuote c && c ≠ '\n') = unquoted t := by
    induction t with
    | nil => exact ⟨quote, [], hquote, by simp [hquote], by simp [unquoted, hquote]⟩
    | cons c t ih =>
      have hc : c ≠ '\n' := fun heq => hline (heq ▸ List.mem_cons_self)
      obtain ⟨stop, rest, hstop, hdrop, htake⟩ := ih fun hmem => hline (List.mem_cons_of_mem c hmem)
      by_cases hq : isQuote c = true
      · exact ⟨c, t ++ [quote], hq, by simp [hq], by simp [unquoted, hq]⟩
      · refine ⟨stop, rest, hstop, ?_, ?_⟩
        · simpa [hq, hc] using hdrop
        · simpa [unquoted, hq, hc] using htake
  obtain ⟨stop, rest, hstop, hdrop, htake⟩ := hends
  rw [quoted?, if_pos hquote, hdrop, htake]
  exact if_pos hstop

/-- The characters of such an input. -/
theorem quoting_eq (x y : Text) (quote : Char) (t : Text) :
    quoting x y quote t =
      'i' :: 'n' :: 'p' :: 'u' :: 't' :: ' ' :: (x ++ ',' :: (y ++ ' ' :: quote :: (t ++ [quote]))) := by
  have hword : "input ".toList = ['i', 'n', 'p', 'u', 't', ' '] := by decide
  unfold quoting
  simp only [hword, List.append_assoc, List.cons_append, List.nil_append]

/-- The parts of an input with a quoted text. -/
theorem inputParts?_quoting (hx : x ≠ []) (hxs : ∀ c ∈ x, Text.isDigit c = true) (hy : y ≠ [])
    (hys : ∀ c ∈ y, Text.isDigit c = true) (hquote : isQuote quote = true) (hline : '\n' ∉ t) :
    inputParts? (quoting x y quote t) = some ⟨x, y, unquoted t⟩ := by
  have hword (rest : Text) : behindWord? "input ".toList
      ('i' :: 'n' :: 'p' :: 'u' :: 't' :: ' ' :: rest) = some rest := by
    simp [behindWord?, sameLetter]
  have hblank : (y ++ ' ' :: quote :: (t ++ [quote])).dropWhile Text.isBlank =
      y ++ ' ' :: quote :: (t ++ [quote]) := by
    cases y with
    | nil => exact absurd rfl hy
    | cons c y =>
      have hc := Text.isBlank_of_isDigit (hys c List.mem_cons_self)
      rw [List.cons_append, List.dropWhile_cons_of_neg (by simp [hc])]
  have hleading : leadingInput? (quoting x y quote t) = some ⟨x, y, unquoted t⟩ := by
    have hcomma : Text.isDigit ',' = false := by decide +kernel
    have hspace : Text.isDigit ' ' = false := by decide +kernel
    simp only [leadingInput?, quoting_eq, hword, digitsUpTo?_append hx hxs hcomma, hblank,
      digitsUpTo?_append hy hys hspace, quoted?_eq hquote hline, Option.bind_eq_bind, Option.bind_some,
      pure]
  rw [quoting_eq] at hleading ⊢
  rw [inputParts?, hleading]

/-- Such an action asks for an input. -/
theorem ofAction_quoting (x y : Text) (quote : Char) (t : Text) :
    ofAction (quoting x y quote t) = .input := by
  have hlower : (quoting x y quote t).lower.head? = some 'i' := by
    have hfirst : Text.lowerChar 'i' = ['i'] := by decide +kernel
    simp [quoting_eq, Text.lower, hfirst]
  have hword (word : Text) (h : word.head? ≠ some 'i') : (quoting x y quote t).lower ≠ word := by
    rintro rfl
    exact h hlower
  have htake (count : Nat) (h : count ≤ 6) : (quoting x y quote t).take count =
      ['i', 'n', 'p', 'u', 't', ' '].take count := by
    have hlength : ['i', 'n', 'p', 'u', 't', ' '].length = 6 := rfl
    rw [quoting_eq]
    exact List.take_append_of_le_length (hlength ▸ h)
  have htap : Keyword.argumentBehind? "tap ".toList (quoting x y quote t) = none := by
    rw [Keyword.argumentBehind?, htake _ (by decide), if_neg (by decide +kernel)]
  have hswipe : Keyword.argumentBehind? "swipe ".toList (quoting x y quote t) = none := by
    rw [Keyword.argumentBehind?, htake _ (by decide), if_neg (by decide +kernel)]
  have hinput : (Keyword.argumentBehind? "input ".toList (quoting x y quote t)).isSome = true := by
    rw [Keyword.argumentBehind?, htake _ (by decide), if_pos (by decide +kernel), Option.isSome_some]
  simp only [ofAction, htap, hswipe, hinput, if_true]
  rw [if_neg (hword _ (by decide)), if_neg (hword _ (by decide)), if_neg (hword _ (by decide))]

theorem trim_quoting (hquote : isQuote quote = true) :
    Text.trim (quoting x y quote t) = quoting x y quote t := by
  have hshape : quoting x y quote t =
      'i' :: ('n' :: 'p' :: 'u' :: 't' :: ' ' :: (x ++ ',' :: (y ++ ' ' :: quote :: t)) ++ [quote]) := by
    simp only [quoting_eq, List.append_assoc, List.cons_append]
  rw [hshape, Text.trim_of_ends (by decide) (isBlank_of_isQuote hquote)]

end Gesture

/-! ## What such an input does -/

namespace Interpreter

variable {δ : Type} {interpreter : Interpreter δ} {x y t shown : Text} {quote : Char} {m n : Nat}
  {x' y' : Int}

/-- Taps a point of the screen and types a text, with a pause behind each. -/
def typeAt (interpreter : Interpreter δ) (action : Text) (parts : Gesture.Input) (x y : Int) :
    Routine (Site δ) (Option SoftError) := do
  let tapped ← interpreter.device.tap x y
  interpreter.rest
  let typed ← interpreter.device.type parts.text
  interpreter.rest
  return inputError action parts x y tapped typed

theorem onScreen_of_shows {value : Int} (h : interpreter.Shows value x') :
    interpreter.onScreen value = pure x' := by
  rw [onScreen, h]
  rfl

/-- A message about a tap need not be there. -/
theorem agrees_sayTap_bind {α : Type} {origin : Text} {x y : Int} (h : interpreter.factor.toText = .ok shown)
    (f : Unit → Routine (Site δ) α) : (interpreter.sayTap origin x y >>= f).Agrees (f ()) := by
  refine Routine.agrees_of_yields (fun site => ?_) f
  rw [sayTap, h]
  exact ⟨rfl, rfl, rfl⟩

theorem agrees_report_bind {α : Type} (error : Option SoftError) (f : Unit → Routine (Site δ) α) :
    (report error >>= f).Agrees (f ()) := by
  refine Routine.agrees_of_yields (fun site => ?_) f
  cases error <;> exact ⟨rfl, rfl, rfl⟩

/-- An action that asks for an input taps its point and types its text. -/
theorem performOne_agrees {action : Text} {parts : Gesture.Input}
    (hgesture : Gesture.ofAction action.trim = .input)
    (hparts : Gesture.inputParts? action.trim = some parts)
    (hx : Text.readDigits? parts.x = some m) (hy : Text.readDigits? parts.y = some n)
    (hx' : interpreter.Shows m x') (hy' : interpreter.Shows n y')
    (hshown : interpreter.factor.toText = .ok shown) :
    (interpreter.performOne action).Agrees (interpreter.typeAt action.trim parts x' y') := by
  have hperform : interpreter.perform action.trim = interpreter.input action.trim parts := by
    rw [perform, hgesture]
    simp only [hparts]
  have hinput : interpreter.input action.trim parts = (do
      interpreter.sayTap [] x' y'
      let tapped ← interpreter.device.tap x' y'
      interpreter.rest
      Routine.say .debug ("输入文本: ".toList ++ parts.text)
      let typed ← interpreter.device.type parts.text
      return inputError action.trim parts x' y' tapped typed) := by
    rw [input, written, written, hx, hy]
    simp only [Routine.pure_bind, onScreen_of_shows hx', onScreen_of_shows hy']
    rfl
  rw [performOne, hperform, hinput, typeAt]
  simp only [Routine.bind_assoc]
  refine (agrees_sayTap_bind hshown _).trans ?_
  refine .bind (.refl _) fun tapped => ?_
  refine .bind (.refl _) fun _ => ?_
  refine (Routine.agrees_of_yields (fun _ => ⟨rfl, rfl, rfl⟩) _).trans ?_
  refine .bind (.refl _) fun typed => ?_
  rw [Routine.pure_bind]
  exact agrees_report_bind _ _

/-- **An input types its text up to the first quote.** An input with a text in quotes on one line taps its
point and types what stands in the text before the first quote of either kind, with a pause behind each, and
does nothing else. So it types the whole text just if there is no quote of either kind in it. -/
theorem input_types_up_to_quote (hquote : Gesture.isQuote quote = true) (hline : '\n' ∉ t) (hx : x ≠ [])
    (hy : y ≠ []) (hm : Text.readDigits? x = some m) (hn : Text.readDigits? y = some n)
    (hx' : interpreter.Shows m x') (hy' : interpreter.Shows n y')
    (hshown : interpreter.factor.toText = .ok shown) :
    (interpreter.performOne (Gesture.quoting x y quote t)).Agrees
        (interpreter.typeAt (Gesture.quoting x y quote t) ⟨x, y, Gesture.unquoted t⟩ x' y') ∧
      (Gesture.unquoted t = t ↔ ∀ c ∈ t, Gesture.isQuote c = false) := by
  have htrim : (Gesture.quoting x y quote t).trim = Gesture.quoting x y quote t :=
    Gesture.trim_quoting hquote
  have hgesture : Gesture.ofAction (Gesture.quoting x y quote t).trim = .input := by
    rw [htrim]
    exact Gesture.ofAction_quoting x y quote t
  have hparts : Gesture.inputParts? (Gesture.quoting x y quote t).trim =
      some ⟨x, y, Gesture.unquoted t⟩ := by
    rw [htrim]
    exact Gesture.inputParts?_quoting hx (Text.isDigit_of_readDigits? hm) hy
      (Text.isDigit_of_readDigits? hn) hquote hline
  have hagrees := performOne_agrees hgesture hparts hm hn hx' hy' hshown
  rw [htrim] at hagrees
  exact ⟨hagrees, Gesture.unquoted_eq_self_iff⟩

/-! ## An apostrophe in double quotes -/

/-- An interpreter whose device takes every call, and which scales nothing. -/
def rehearsed : Interpreter (List DeviceCall) where
  device := Rehearsal.device ⟨fun _ _ => true, fun _ _ => none, {}⟩
  factor := .real .one
  delay := 1000

instance {value : Int} : Decidable (interpreter.Shows value x') :=
  inferInstanceAs (Decidable (_ = Except.ok x'))

/-- An input that breaks off at an apostrophe, although its text stands in double quotes. -/
theorem input_types_up_to_quote_of_apostrophe :
    Gesture.quoting "1".toList "2".toList '"' "it's".toList = "input 1,2 \"it's\"".toList ∧
      (rehearsed.performOne "input 1,2 \"it's\"".toList ⟨{}, []⟩).trace =
        [.called (.tap 1 2), .slept (.int 1000), .called (.type "it".toList), .slept (.int 1000)] ∧
      (rehearsed.performOne (Gesture.quoting "1".toList "2".toList '"' "it's".toList)).Agrees
          (rehearsed.typeAt (Gesture.quoting "1".toList "2".toList '"' "it's".toList)
            ⟨"1".toList, "2".toList, Gesture.unquoted "it's".toList⟩ 1 2) ∧
        (Gesture.unquoted "it's".toList = "it's".toList ↔
          ∀ c ∈ "it's".toList, Gesture.isQuote c = false) := by
  have hx : Text.readDigits? "1".toList = some 1 := by decide +kernel
  have hy : Text.readDigits? "2".toList = some 2 := by decide +kernel
  have hone : rehearsed.Shows 1 1 := by decide +kernel
  have htwo : rehearsed.Shows 2 2 := by decide +kernel
  exact ⟨by decide, by decide +kernel,
    input_types_up_to_quote (by decide) (by decide) (by decide) (by decide) hx hy hone htwo rfl⟩

/-- A text that stands in double quotes and has none in it may be cut short. -/
theorem other_quote_may_cut_text :
    ¬ ∀ (interpreter : Interpreter (List DeviceCall)) (x y t shown : Text) (quote : Char) (m n : Nat)
      (x' y' : Int), Gesture.isQuote quote = true → '\n' ∉ t → quote ∉ t → x ≠ [] → y ≠ [] →
      Text.readDigits? x = some m → Text.readDigits? y = some n → interpreter.Shows m x' →
      interpreter.Shows n y' → interpreter.factor.toText = .ok shown →
      (interpreter.performOne (Gesture.quoting x y quote t)).Agrees
        (interpreter.typeAt (Gesture.quoting x y quote t) ⟨x, y, t⟩ x' y') := by
  intro h
  have hx : Text.readDigits? "1".toList = some 1 := by decide +kernel
  have hy : Text.readDigits? "2".toList = some 2 := by decide +kernel
  have hone : rehearsed.Shows 1 1 := by decide +kernel
  have htwo : rehearsed.Shows 2 2 := by decide +kernel
  have hwhole := h rehearsed "1".toList "2".toList "it's".toList Binary64.one.shortest '"' 1 2 1 2
    (by decide) (by decide) (by decide) (by decide) (by decide) hx hy hone htwo rfl
  have htrace := (hwhole ⟨{}, []⟩).2.2
  revert htrace
  decide +kernel

end Interpreter

end ScreenScript
