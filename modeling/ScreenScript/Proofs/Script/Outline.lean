import ScreenScript.Proofs.Script.Significant
import Mathlib.Data.List.Infix

/-!
# Outlines

Before its digits are drawn, a line is an outline: characters that are known, and places at which drawn
digits will stand. How many digits a line takes, and where they go, is settled by its outline, so two
streams of digits fill the same outlines.

* `Placeholder.outline` — the outline of a line, and how many digits have been drawn behind it
* `Placeholder.substitute_add` — filling the placeholders of a line is filling its outline
* `SignificantLine.outlines` — the outlines of the lines of a script
* `Outline.Twins` — two texts that are one piece of an outline, filled with different digits
-/

namespace ScreenScript

/-- The digits of a stream behind a position. -/
def DigitStream.behind (stream : DigitStream) (start : Nat) : DigitStream :=
  fun index => stream (start + index)

/-- A character of a line whose digits are not drawn yet. -/
inductive Glyph
  /-- a character that is known -/
  | plain (c : Char)
  /-- the drawn digit with this index -/
  | drawn (index : Nat)
  deriving DecidableEq, Repr

namespace Glyph

/-- The character that digits make of a glyph. -/
def fill (digits : DigitStream) : Glyph → Char
  | plain c => c
  | drawn index => Text.digitChar (digits index)

/-- Whether a glyph is a white space character. -/
def isBlank : Glyph → Bool
  | plain c => Text.isBlank c
  | drawn _ => false

/-- No drawn digit is a white space character. -/
theorem isBlank_fill (digits : DigitStream) (glyph : Glyph) :
    Text.isBlank (glyph.fill digits) = glyph.isBlank := by
  have hdigit : ∀ value : Fin 10, Text.isBlank (Text.digitChar value) = false := by decide
  cases glyph with
  | plain c => rfl
  | drawn index => exact hdigit (digits index)

end Glyph

/-- A text whose digits are not drawn yet. -/
abbrev Outline := List Glyph

namespace Outline

/-- The text that digits make of an outline. -/
def fill (digits : DigitStream) (outline : Outline) : Text := outline.map (Glyph.fill digits)

/-- The outline without the blanks at its two ends. -/
def trim (outline : Outline) : Outline :=
  ((outline.dropWhile Glyph.isBlank).reverse.dropWhile Glyph.isBlank).reverse

theorem dropWhile_fill (digits : DigitStream) (outline : Outline) :
    (outline.fill digits).dropWhile Text.isBlank =
      Outline.fill digits (outline.dropWhile Glyph.isBlank) := by
  have hblank : Text.isBlank ∘ Glyph.fill digits = Glyph.isBlank :=
    funext fun glyph => Glyph.isBlank_fill digits glyph
  rw [fill, List.dropWhile_map, hblank, fill]

/-- Blanks are found before the digits are drawn. -/
theorem trim_fill (digits : DigitStream) (outline : Outline) :
    Text.trim (outline.fill digits) = outline.trim.fill digits := by
  have hreverse (o : Outline) : (Outline.fill digits o).reverse = Outline.fill digits o.reverse :=
    List.map_reverse.symm
  rw [Text.trim, Text.trimStart, Text.trimEnd, dropWhile_fill, hreverse, dropWhile_fill, hreverse, trim]

theorem trim_isInfix (outline : Outline) : outline.trim <:+: outline := by
  have hend : outline.trim <+: outline.dropWhile Glyph.isBlank := by
    rw [trim, ← List.reverse_suffix, List.reverse_reverse]
    exact List.dropWhile_suffix _
  exact hend.isInfix.trans (List.dropWhile_suffix _).isInfix

/-! ## Twins -/

/-- Two texts that are the same piece of one of the outlines, each filled with its own digits: they are
equally long, and differ at most where a drawn digit stands. -/
def Twins (outlines : List Outline) (digits₁ digits₂ : DigitStream) (t₁ t₂ : Text) : Prop :=
  ∃ whole ∈ outlines, ∃ piece : Outline, piece <:+: whole ∧ t₁ = piece.fill digits₁ ∧
    t₂ = piece.fill digits₂

namespace Twins

variable {outlines : List Outline} {digits₁ digits₂ : DigitStream} {t₁ t₂ : Text}

theorem of_mem {outline : Outline} (h : outline ∈ outlines) :
    Twins outlines digits₁ digits₂ (outline.fill digits₁) (outline.fill digits₂) :=
  ⟨outline, h, outline, List.infix_refl _, rfl, rfl⟩

/-- What stands behind a keyword of one of two twins, and behind one as long of the other. -/
theorem trim_drop (h : Twins outlines digits₁ digits₂ t₁ t₂) (count : Nat) :
    Twins outlines digits₁ digits₂ (Text.trim (t₁.drop count)) (Text.trim (t₂.drop count)) := by
  obtain ⟨whole, hmem, piece, hinfix, rfl, rfl⟩ := h
  have hdrop (digits : DigitStream) :
      (piece.fill digits).drop count = Outline.fill digits (piece.drop count) := List.map_drop.symm
  refine ⟨whole, hmem, Outline.trim (piece.drop count), ?_, ?_, ?_⟩
  · exact ((trim_isInfix _).trans (List.drop_suffix count piece).isInfix).trans hinfix
  · rw [hdrop, trim_fill]
  · rw [hdrop, trim_fill]

end Twins

end Outline

/-! ## The outlines of a script -/

namespace Placeholder

/-- The outline of some pieces, given how many digits have been drawn before, and how many have been
drawn then. -/
def outlineFrom : Nat → List Piece → Option Outline × Nat
  | drawn, [] => (some [], drawn)
  | drawn, .plain c :: rest =>
    let (outline, total) := outlineFrom drawn rest
    (outline.map (.plain c :: ·), total)
  | drawn, .hole digits :: rest =>
    match Text.readDigits? digits with
    | none => (none, drawn)
    | some count =>
      let (outline, total) := outlineFrom (drawn + count) rest
      (outline.map ((List.range count).map (fun i => .drawn (drawn + i)) ++ ·), total)

/-- The outline of a text. -/
def outline (drawn : Nat) (t : Text) : Option Outline × Nat := outlineFrom drawn (cut t)

/-- Filling pieces is filling their outline with the digits behind the start. -/
theorem fill_add (stream : DigitStream) (start drawn : Nat) (pieces : List Piece) :
    fill stream (start + drawn) pieces =
      ((outlineFrom drawn pieces).1.map (Outline.fill (stream.behind start)),
        start + (outlineFrom drawn pieces).2) := by
  induction pieces generalizing drawn with
  | nil => rfl
  | cons piece rest ih =>
    cases piece with
    | plain c =>
      rw [fill, ih, outlineFrom]
      simp only [Option.map_map]
      rfl
    | hole digits =>
      rw [fill, outlineFrom]
      cases Text.readDigits? digits with
      | none => rfl
      | some count =>
        have hdraw (o : Outline) : draw stream (start + drawn) count ++ o.fill (stream.behind start) =
            Outline.fill (stream.behind start)
              ((List.range count).map (fun i => Glyph.drawn (drawn + i)) ++ o) := by
          simp [draw, Outline.fill, Glyph.fill, DigitStream.behind, Nat.add_assoc]
        dsimp only
        rw [Nat.add_assoc, ih]
        simp only [Option.map_map, Function.comp_def, hdraw]

/-- Filling the placeholders of a text is filling its outline. -/
theorem substitute_add (stream : DigitStream) (start drawn : Nat) (t : Text) :
    substitute stream (start + drawn) t =
      ((outline drawn t).1.map (Outline.fill (stream.behind start)), start + (outline drawn t).2) :=
  fill_add stream start drawn (cut t)

end Placeholder

namespace SignificantLine

/-- The outlines of the significant lines of a script, up to a placeholder that is too long, given how
many digits have been drawn before. -/
def outlines : Nat → List Text → List Outline
  | _, [] => []
  | drawn, raw :: rest =>
    if raw.trim.isSignificant then
      match Placeholder.outline drawn raw.trim with
      | (none, _) => []
      | (some outline, total) => outline :: outlines total rest
    else
      outlines drawn rest

end SignificantLine

end ScreenScript
