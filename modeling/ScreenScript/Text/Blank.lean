import ScreenScript.Text.Basic

/-!
# Blank characters

White space in the Unicode sense, together with the four ASCII separators `0x1c` to `0x1f`.
Trimming removes it at both ends, and words are what it separates. Where the separators do not count as
white space, the characters are called spaces.
-/

namespace ScreenScript.Text

/-- The code points of white space. -/
def blankRanges : List (Nat × Nat) := [
  (0x09, 0x0d), (0x1c, 0x20), (0x85, 0x85), (0xa0, 0xa0), (0x1680, 0x1680), (0x2000, 0x200a),
  (0x2028, 0x2029), (0x202f, 0x202f), (0x205f, 0x205f), (0x3000, 0x3000)]

/-- A white space character. -/
def isBlank (c : Char) : Bool :=
  blankRanges.any fun (first, last) => first ≤ c.toNat && c.toNat ≤ last

/-- The text without its leading blanks. -/
def trimStart (t : Text) : Text := t.dropWhile isBlank

/-- The text without its trailing blanks. -/
def trimEnd (t : Text) : Text := (t.reverse.dropWhile isBlank).reverse

/-- The text without the blanks at its two ends. -/
def trim (t : Text) : Text := trimEnd (trimStart t)

/-- A white space character in the Unicode sense alone. -/
def isSpace (c : Char) : Bool := isBlank c && !(0x1c ≤ c.toNat && c.toNat ≤ 0x1f)

/-- The text without the spaces at its two ends. -/
def trimSpaces (t : Text) : Text := ((t.dropWhile isSpace).reverse.dropWhile isSpace).reverse

/-- The words of a text: its longest pieces without a blank. -/
def words : Text → List Text
  | [] => []
  | c :: rest =>
    if isBlank c then
      words rest
    else
      match rest with
      | [] => [[c]]
      | next :: _ =>
        if isBlank next then
          [c] :: words rest
        else
          match words rest with
          | [] => [[c]]
          | word :: others => (c :: word) :: others

/-! ## Small laws -/

@[simp] theorem trim_nil : trim [] = [] := rfl

theorem isBlank_space : isBlank ' ' = true := by decide

end ScreenScript.Text
