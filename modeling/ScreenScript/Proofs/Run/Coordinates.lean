import ScreenScript.Proofs.Run.Magnitude
import ScreenScript.Proofs.Script.Keyword
import ScreenScript.Proofs.Text.ReadBack

/-!
# Taps and swipes

The argument of a tap or a swipe is cut at its commas, and its integers are the fields that are integers; the
others are dropped. If as many are left as there are coordinates, the device is called with what they stand for
on the screen. So coordinates that were written in decimal are read back, with any blanks around them, but a
text with other fields among them is taken as well.

* `Gesture.Coordinate` — an integer in decimal with blanks around it
* `Gesture.Lists` — a text whose fields are integers, all of them
* `Gesture.ofAction_of_tap`, `Gesture.ofAction_of_swipe` — the keyword decides what an action asks for
* `Interpreter.coordinates_read_back` — written coordinates are those of the call
* `Interpreter.gestures_go_by_integers` — what any tap and any swipe do
-/

namespace ScreenScript

/-! ## Integers that are not too large -/

namespace Binary64

theorem floorLog2_one {num : Nat} (h : num ≠ 0) : floorLog2 num 1 = num.log2 := by
  have hone : Nat.log2 1 = 0 := by decide +kernel
  have hle : 2 ^ num.log2 ≤ num := Nat.log2_self_le h
  rw [floorLog2, hone]
  dsimp only
  rw [Nat.cast_zero, sub_zero, if_pos]
  rw [fraction]
  split
  next hneg =>
    have hzero : num.log2 = 0 := by omega
    simp [hzero, twoPow]
    omega
  · simpa [twoPow] using hle

/-- An integer that is too large has no floating-point number. -/
theorem log2_lt_of_ofInt? {n : Int} {x : Binary64} (h : ofInt? n = some x) : n.natAbs.log2 < 1024 := by
  by_contra hlarge
  have hne : n.natAbs ≠ 0 := by
    intro hzero
    rw [hzero] at hlarge
    exact absurd (by decide) hlarge
  have hexponent : maxExponent < max (floorLog2 n.natAbs 1 - 52) minExponent := by
    rw [floorLog2_one hne, maxExponent]
    omega
  have hinf : round (n < 0) n.natAbs 1 = .inf (n < 0) := by
    rw [round, if_neg hne]
    dsimp only
    split <;> rw [if_neg (by omega)]
  rw [ofInt?, hinf] at h
  cases h

end Binary64

/-! ## Fields -/

namespace Gesture

variable {t action argument : Text} {values : List Int}

/-- An integer in decimal with blanks around it. -/
structure Coordinate where
  /-- the integer -/
  value : Int
  /-- the blanks in front of it -/
  front : Text := []
  /-- the blanks behind it -/
  back : Text := []
  blank_front : Text.Blank front := by decide
  blank_back : Text.Blank back := by decide

namespace Coordinate

/-- The text of a coordinate. -/
def text (coordinate : Coordinate) : Text := coordinate.front ++ Text.ofInt coordinate.value ++ coordinate.back

/-- Coordinates with commas between them. -/
def line (coordinates : List Coordinate) : Text := [','].intercalate (coordinates.map text)

theorem comma_not_mem_text (coordinate : Coordinate) : ',' ∉ coordinate.text := by
  have hblank : Text.isBlank ',' = false := by decide
  intro hcomma
  rw [text, List.mem_append, List.mem_append] at hcomma
  rcases hcomma with (hfront | hvalue) | hback
  · exact absurd (coordinate.blank_front ',' hfront) (by simp [hblank])
  · rcases Text.mem_ofInt hvalue with hdigit | hsign
    · exact absurd hdigit (by decide)
    · exact absurd hsign (by decide)
  · exact absurd (coordinate.blank_back ',' hback) (by simp [hblank])

theorem trim_text (coordinate : Coordinate) : coordinate.text.trim = Text.ofInt coordinate.value := by
  rw [text, Text.trim_pad coordinate.blank_front coordinate.blank_back,
    Text.trim_eq_self fun _ => Text.isBlank_of_mem_ofInt]

end Coordinate

theorem integers_trim (t : Text) : integers t.trim = integers t := by
  have hmap : (t.trim.fields ',').map Text.trim = (t.fields ',').map Text.trim :=
    Text.map_trim_fields_trim (by decide) t
  simpa [integers, List.filterMap_map, Function.comp_def] using congrArg (List.filterMap Text.readInt?) hmap

/-- Written coordinates are read back in order. -/
theorem integers_line {coordinates : List Coordinate} (hne : coordinates ≠ [])
    (h : ∀ coordinate ∈ coordinates, Text.Writable coordinate.value) :
    integers (Coordinate.line coordinates) = coordinates.map Coordinate.value := by
  have hcommas : ∀ piece ∈ coordinates.map Coordinate.text, ',' ∉ piece := by
    intro piece hpiece
    obtain ⟨coordinate, -, rfl⟩ := List.mem_map.1 hpiece
    exact coordinate.comma_not_mem_text
  rw [integers, Coordinate.line, Text.fields_intercalate hcommas (by simpa using hne), List.filterMap_map]
  clear hne hcommas
  induction coordinates with
  | nil => rfl
  | cons coordinate rest ih =>
    obtain ⟨hcoordinate, hrest⟩ := List.forall_mem_cons.1 h
    rw [List.filterMap_cons, Function.comp_apply, Coordinate.trim_text, Text.readInt?_ofInt hcoordinate, ih hrest,
      List.map_cons]

/-- The fields of a text are these integers, one after the other. -/
def Lists (t : Text) (values : List Int) : Prop :=
  (t.fields ',').map (fun field => Text.readInt? field.trim) = values.map some

theorem map_eq_of_length_filterMap {α β : Type} {f : α → Option β} {list : List α}
    (h : (list.filterMap f).length = list.length) : list.map f = (list.filterMap f).map some := by
  induction list with
  | nil => rfl
  | cons a rest ih =>
    cases ha : f a with
    | none =>
      have hle := List.length_filterMap_le f rest
      rw [List.filterMap_cons_none ha, List.length_cons] at h
      omega
    | some b =>
      rw [List.filterMap_cons_some ha, List.length_cons, List.length_cons] at h
      rw [List.filterMap_cons_some ha, List.map_cons, List.map_cons, ha, ih (Nat.succ.inj h)]

/-- A text is a list of integers if none of its fields is dropped. -/
theorem lists_iff : Lists t values ↔ integers t = values ∧ (t.fields ',').length = values.length := by
  rw [Lists]
  constructor
  · intro h
    have hkept := congrArg (List.filterMap id) h
    rw [List.filterMap_map, List.filterMap_map] at hkept
    exact ⟨hkept.trans (List.filterMap_some (l := values)), by simpa using congrArg List.length h⟩
  · rintro ⟨rfl, hlength⟩
    exact map_eq_of_length_filterMap hlength.symm

/-- Coordinates behind a keyword in any letter case, with blanks around the whole. -/
theorem exists_argument {keyword word front back : Text} {coordinates : List Coordinate}
    (hfront : Text.Blank front) (hback : Text.Blank back) (hword : word.lower = keyword)
    (hdot : '\u0307' ∉ keyword) (hfirst : ∃ d, keyword.head? = some d ∧ Text.isBlank d = false)
    (hne : coordinates ≠ [])
    (h : ∀ coordinate ∈ coordinates, Text.Writable coordinate.value) :
    ∃ argument, Keyword.argumentBehind? keyword
        (Text.trim (front ++ (word ++ Coordinate.line coordinates) ++ back)) = some argument ∧
      integers argument = coordinates.map Coordinate.value := by
  have hline := integers_line hne h
  have hbody : (Coordinate.line coordinates).trim ≠ [] := by
    intro hnil
    rw [← integers_trim, hnil] at hline
    exact hne (List.map_eq_nil_iff.1 hline.symm)
  exact ⟨_, Keyword.argumentBehind?_pad hfront hback hword hdot hfirst hbody, (integers_trim _).trans hline⟩

/-! ## What taps and swipes ask for -/

theorem lower_ne_of_head {word : Text} {d : Char} (h : action.lower.head? = some d) (hword : word.head? ≠ some d) :
    action.lower ≠ word := by
  rintro rfl
  exact hword h

/-- An action with the keyword of a tap is one. -/
theorem ofAction_of_tap (h : Keyword.argumentBehind? "tap ".toList action = some argument) :
    ofAction action = ofTapArgument argument := by
  obtain ⟨c, rest, rfl, hfirst⟩ := Keyword.exists_first h rfl (by decide) (by decide)
  rw [ofAction, if_neg (lower_ne_of_head (hfirst rest) (by decide)),
    if_neg (lower_ne_of_head (hfirst rest) (by decide)), if_neg (lower_ne_of_head (hfirst rest) (by decide)), h]

/-- An action with the keyword of a swipe is one. -/
theorem ofAction_of_swipe (h : Keyword.argumentBehind? "swipe ".toList action = some argument) :
    ofAction action = ofSwipeArgument argument := by
  obtain ⟨c, rest, rfl, hfirst⟩ := Keyword.exists_first h rfl (by decide) (by decide)
  have htap : Keyword.argumentBehind? "tap ".toList (c :: rest) = none := by
    rw [Keyword.argumentBehind?, if_neg]
    exact lower_ne_of_head (hfirst (rest.take 3)) (by decide)
  rw [ofAction, if_neg (lower_ne_of_head (hfirst rest) (by decide)),
    if_neg (lower_ne_of_head (hfirst rest) (by decide)), if_neg (lower_ne_of_head (hfirst rest) (by decide)), htap]
  dsimp only
  rw [h]

theorem ofTapArgument_of_integers {x y : Int} (h : integers argument = [x, y]) :
    ofTapArgument argument = .tap x y := by
  simp [ofTapArgument, coordinates?, h]

theorem ofTapArgument_of_length (h : (integers argument).length ≠ 2) :
    ofTapArgument argument = .malformed := by
  simp [ofTapArgument, coordinates?, h]

theorem ofSwipeArgument_of_integers {x₁ y₁ x₂ y₂ : Int} (h : integers argument = [x₁, y₁, x₂, y₂]) :
    ofSwipeArgument argument = .swipe x₁ y₁ x₂ y₂ := by
  simp [ofSwipeArgument, coordinates?, h]

theorem ofSwipeArgument_of_length (h : (integers argument).length ≠ 4) :
    ofSwipeArgument argument = .malformed := by
  simp [ofSwipeArgument, coordinates?, h]

end Gesture

/-! ## What they do -/

namespace Interpreter

variable {δ : Type} {interpreter : Interpreter δ} {factor : Binary64} {action argument : Text}

/-- Taps a point of the screen, with a pause behind it. -/
def tapping (interpreter : Interpreter δ) (x y : Int) : Routine (Site δ) (Option SoftError) := do
  let _ ← interpreter.device.tap x y
  interpreter.rest
  return none

/-- Swipes from one point of the screen to another, with a pause behind it. -/
def swiping (interpreter : Interpreter δ) (x₁ y₁ x₂ y₂ : Int) : Routine (Site δ) (Option SoftError) := do
  let _ ← interpreter.device.swipe x₁ y₁ x₂ y₂
  interpreter.rest
  return none

theorem performOne_of_tap {x y : Int} (hfactor : interpreter.factor = .real factor)
    (h : Gesture.ofAction action.trim = .tap x y) :
    (interpreter.performOne action).Agrees (do
      let x' ← interpreter.onScreen x
      let y' ← interpreter.onScreen y
      interpreter.tapping x' y') := by
  have hshown : interpreter.factor.toText = .ok factor.shortest := by rw [hfactor]; rfl
  rw [performOne, perform, h]
  simp only [Routine.bind_assoc]
  refine .bind (.refl _) fun x' => .bind (.refl _) fun y' => ?_
  refine (agrees_sayTap_bind hshown _).trans ?_
  rw [call, tapping, Routine.bind_assoc]
  refine .bind (.refl _) fun _ => ?_
  rw [Routine.pure_bind]
  exact agrees_report_bind none _

theorem performOne_of_swipe (interpreter : Interpreter δ) {x₁ y₁ x₂ y₂ : Int}
    (h : Gesture.ofAction action.trim = .swipe x₁ y₁ x₂ y₂) :
    (interpreter.performOne action).Agrees (do
      let x₁' ← interpreter.onScreen x₁
      let y₁' ← interpreter.onScreen y₁
      let x₂' ← interpreter.onScreen x₂
      let y₂' ← interpreter.onScreen y₂
      interpreter.swiping x₁' y₁' x₂' y₂') := by
  rw [performOne, perform, h]
  simp only [Routine.bind_assoc]
  refine .bind (.refl _) fun x₁' => .bind (.refl _) fun y₁' => ?_
  refine .bind (.refl _) fun x₂' => .bind (.refl _) fun y₂' => ?_
  rw [call, swiping, Routine.bind_assoc]
  refine .bind (.refl _) fun _ => ?_
  rw [Routine.pure_bind]
  exact agrees_report_bind none _

/-- An integer that stands for a coordinate of the screen does not have too many digits. -/
theorem Shows.writable {value shown : Int} (hfactor : interpreter.factor = .real factor)
    (h : interpreter.Shows value shown) : Text.Writable value := by
  have hreal : ∃ x, Binary64.ofInt? value = some x := by
    rw [Shows, hfactor] at h
    cases hx : Binary64.ofInt? value with
    | none =>
      have hdiv : (Scalar.int value).div (.real factor) = .error .overflow := by
        change (do Scalar.divReal (← (Scalar.int value).toReal) factor) = _
        rw [Scalar.toReal, hx]
        rfl
      rw [RunContext.toDevice, hdiv] at h
      cases h
    | some x => exact ⟨x, rfl⟩
  obtain ⟨x, hx⟩ := hreal
  have hlog := Binary64.log2_lt_of_ofInt? hx
  refine Text.writable_of_lt (Nat.lt_log2_self.trans_le ?_)
  calc 2 ^ (value.natAbs.log2 + 1)
    _ ≤ 10 ^ (value.natAbs.log2 + 1) := Nat.pow_le_pow_left (by decide) _
    _ ≤ 10 ^ Text.maxDigits := Nat.pow_le_pow_right (by decide) (hlog.trans (by decide))

/-- **Coordinates are read back.** A tap or a swipe whose integers are written in decimal with commas between
them makes one call of the device, with what they stand for on the screen, in this order, and pauses. The
keyword may be in any letter case, and blanks may stand around each integer and around the whole. -/
theorem coordinates_read_back (hfactor : interpreter.factor = .real factor) {front back : Text}
    (hfront : Text.Blank front) (hback : Text.Blank back) :
    (∀ (word : Text) (x y : Gesture.Coordinate) (x' y' : Int), word.lower = "tap ".toList →
      interpreter.Shows x.value x' → interpreter.Shows y.value y' →
      (interpreter.performOne (front ++ (word ++ Gesture.Coordinate.line [x, y]) ++ back)).Agrees
        (interpreter.tapping x' y')) ∧
    ∀ (word : Text) (x₁ y₁ x₂ y₂ : Gesture.Coordinate) (x₁' y₁' x₂' y₂' : Int), word.lower = "swipe ".toList →
      interpreter.Shows x₁.value x₁' → interpreter.Shows y₁.value y₁' → interpreter.Shows x₂.value x₂' →
      interpreter.Shows y₂.value y₂' →
      (interpreter.performOne (front ++ (word ++ Gesture.Coordinate.line [x₁, y₁, x₂, y₂]) ++ back)).Agrees
        (interpreter.swiping x₁' y₁' x₂' y₂') := by
  constructor
  · intro word x y x' y' hword hx hy
    have hwritable : ∀ coordinate ∈ [x, y], Text.Writable coordinate.value := by
      simpa using ⟨hx.writable hfactor, hy.writable hfactor⟩
    obtain ⟨argument, hargument, hintegers⟩ := Gesture.exists_argument hfront hback hword (by decide)
      ⟨'t', rfl, by decide⟩ (List.cons_ne_nil _ _) hwritable
    have htap := performOne_of_tap hfactor
      ((Gesture.ofAction_of_tap hargument).trans (Gesture.ofTapArgument_of_integers hintegers))
    rwa [onScreen_of_shows hx, Routine.pure_bind, onScreen_of_shows hy, Routine.pure_bind] at htap
  · intro word x₁ y₁ x₂ y₂ x₁' y₁' x₂' y₂' hword hx₁ hy₁ hx₂ hy₂
    have hwritable : ∀ coordinate ∈ [x₁, y₁, x₂, y₂], Text.Writable coordinate.value := by
      simpa using ⟨hx₁.writable hfactor, hy₁.writable hfactor, hx₂.writable hfactor, hy₂.writable hfactor⟩
    obtain ⟨argument, hargument, hintegers⟩ := Gesture.exists_argument hfront hback hword (by decide)
      ⟨'s', rfl, by decide⟩ (List.cons_ne_nil _ _) hwritable
    have hswipe := performOne_of_swipe interpreter
      ((Gesture.ofAction_of_swipe hargument).trans (Gesture.ofSwipeArgument_of_integers hintegers))
    rwa [onScreen_of_shows hx₁, Routine.pure_bind, onScreen_of_shows hy₁, Routine.pure_bind,
      onScreen_of_shows hx₂, Routine.pure_bind, onScreen_of_shows hy₂, Routine.pure_bind] at hswipe

/-- A swipe with blanks of several kinds on a picture that was scaled to half its size. -/
theorem coordinates_read_back_of_blanks :
    let interpreter := { rehearsed with factor := .real .half }
    let coordinates : List Gesture.Coordinate :=
      [{ value := -3 }, { value := 40, front := " ".toList, back := " ".toList },
        { value := 5, front := "\n".toList }, { value := 0 }]
    let action := "\t".toList ++ ("sWiPe ".toList ++ Gesture.Coordinate.line coordinates) ++ "\u3000".toList
    action = "\tsWiPe -3, 40 ,\n5,0\u3000".toList ∧
      (interpreter.performOne action ⟨{}, []⟩).trace = [.called (.swipe (-6) 80 10 0), .slept (.int 1000)] ∧
      (interpreter.performOne action).Agrees (interpreter.swiping (-6) 80 10 0) := by
  intro interpreter coordinates action
  have hfactor : interpreter.factor = .real .half := rfl
  have hfront : Text.Blank "\t".toList := by decide
  have hback : Text.Blank "\u3000".toList := by decide
  refine ⟨by decide, by decide +kernel, (coordinates_read_back hfactor hfront hback).2 "sWiPe ".toList _ _ _ _
    (-6) 80 10 0 ?_ ?_ ?_ ?_ ?_⟩ <;> decide +kernel

/-- **Gestures go by the integers.** A tap calls the device if there are two integers among the fields of its
argument, and a swipe if there are four, with what these stand for on the screen. Otherwise it only pauses. The
argument may well have other fields: it is a list of just these integers if it has as many fields. -/
theorem gestures_go_by_integers (hfactor : interpreter.factor = .real factor) :
    (∀ action argument, Keyword.argumentBehind? "tap ".toList (Text.trim action) = some argument →
      (∀ x y, Gesture.integers argument = [x, y] →
        (interpreter.performOne action).Agrees (do
          let x' ← interpreter.onScreen x
          let y' ← interpreter.onScreen y
          interpreter.tapping x' y')) ∧
      ((Gesture.integers argument).length ≠ 2 →
        (interpreter.performOne action).Agrees (do interpreter.rest; return none))) ∧
    (∀ action argument, Keyword.argumentBehind? "swipe ".toList (Text.trim action) = some argument →
      (∀ x₁ y₁ x₂ y₂, Gesture.integers argument = [x₁, y₁, x₂, y₂] →
        (interpreter.performOne action).Agrees (do
          let x₁' ← interpreter.onScreen x₁
          let y₁' ← interpreter.onScreen y₁
          let x₂' ← interpreter.onScreen x₂
          let y₂' ← interpreter.onScreen y₂
          interpreter.swiping x₁' y₁' x₂' y₂')) ∧
      ((Gesture.integers argument).length ≠ 4 →
        (interpreter.performOne action).Agrees (do interpreter.rest; return none))) ∧
    ∀ argument values, Gesture.Lists argument values ↔
      Gesture.integers argument = values ∧ (argument.fields ',').length = values.length := by
  refine ⟨fun action argument h => ⟨fun x y hintegers => ?_, fun hlength => ?_⟩,
    fun action argument h => ⟨fun x₁ y₁ x₂ y₂ hintegers => ?_, fun hlength => ?_⟩,
    fun argument values => Gesture.lists_iff⟩
  · exact performOne_of_tap hfactor
      ((Gesture.ofAction_of_tap h).trans (Gesture.ofTapArgument_of_integers hintegers))
  · exact performOne_of_asksNothing
      (.inl ((Gesture.ofAction_of_tap h).trans (Gesture.ofTapArgument_of_length hlength)))
  · exact performOne_of_swipe interpreter
      ((Gesture.ofAction_of_swipe h).trans (Gesture.ofSwipeArgument_of_integers hintegers))
  · exact performOne_of_asksNothing
      (.inl ((Gesture.ofAction_of_swipe h).trans (Gesture.ofSwipeArgument_of_length hlength)))

/-- A tap with a word between its coordinates, and one that has a coordinate too few. -/
theorem gestures_go_by_integers_of_word :
    Keyword.argumentBehind? "tap ".toList "tap 1,x,2".toList = some "1,x,2".toList ∧
      (rehearsed.performOne "tap 1,x,2".toList ⟨{}, []⟩).trace = [.called (.tap 1 2), .slept (.int 1000)] ∧
      (rehearsed.performOne "tap 1,x,2".toList).Agrees (do
        let x ← rehearsed.onScreen 1
        let y ← rehearsed.onScreen 2
        rehearsed.tapping x y) ∧
      (rehearsed.performOne "tap 1,x".toList).Agrees (do rehearsed.rest; return none) := by
  have hfactor : rehearsed.factor = .real .one := rfl
  obtain ⟨htap, -⟩ := gestures_go_by_integers hfactor
  have hwhole := htap "tap 1,x,2".toList "1,x,2".toList (by decide +kernel)
  have hshort := htap "tap 1,x".toList "1,x".toList (by decide +kernel)
  exact ⟨by decide +kernel, by decide +kernel, hwhole.1 1 2 (by decide +kernel), hshort.2 (by decide +kernel)⟩

/-- The device may be called although the argument is no list of coordinates. -/
theorem malformed_tap_may_be_made :
    ¬ ∀ (action argument : Text) (x y : Int), Keyword.argumentBehind? "tap ".toList action.trim = some argument →
      Event.called (.tap x y) ∈ (rehearsed.performOne action ⟨{}, []⟩).trace →
      ∃ values, values.length = 2 ∧ Gesture.Lists argument values := by
  intro h
  obtain ⟨values, htwo, hlists⟩ :=
    h "tap 1,x,2".toList "1,x,2".toList 1 2 (by decide +kernel) (by decide +kernel)
  have hfields := (Gesture.lists_iff.1 hlists).2
  rw [htwo] at hfields
  revert hfields
  decide

end Interpreter

end ScreenScript
