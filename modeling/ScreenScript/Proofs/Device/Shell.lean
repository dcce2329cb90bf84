import ScreenScript.Text.Shell
import Mathlib.Data.List.Forall2

/-!
# What the shell of the device reads

The bridge joins the arguments of a command with spaces, and the shell of the device reads the line that
comes out. It cuts the line into words at blanks, takes what stands in quotes as it is, and acts on some
characters that stand outside quotes. A line is harmless if it is a single simple command without any such
character; only then does the shell do no more than start a program with some words.

* `Shell.words?` — the words of a line, if it is harmless
* `Shell.Gives` — an argument that is read as a value wherever it stands
* `Shell.gives_typedWord`, `Shell.gives_ofInt` — quoted texts and written numbers are such arguments
* `Shell.words?_intercalate` — a line made of such arguments is harmless, and its words are the values
-/

namespace ScreenScript.Shell

/-! ## Reading a line -/

/-- Where a character stands. -/
inductive Quoting
  /-- outside quotes -/
  | bare
  /-- in single quotes -/
  | single
  /-- in double quotes -/
  | double
  deriving DecidableEq, Repr

/-- The characters that separate words. -/
def gaps : Text := " \t".toList

/-- The characters that the shell acts on outside quotes: they end a command, redirect it, are replaced
by something else, or begin a comment. -/
def metacharacters : Text := "\n|&;<>()$`\\*?[]#~!\x7b\x7d^".toList

/-- The characters that the shell acts on in double quotes. -/
def expandedInDouble : Text := "$`\\".toList

/-- The words of the rest of a line, given the word that has begun, if one has. There are none if the
shell acts on a character, or if quotes are left open. -/
def scan : Quoting → Option Text → Text → Option (List Text)
  | .bare, word, [] => some word.toList
  | .single, _, [] => none
  | .double, _, [] => none
  | .bare, word, c :: rest =>
    if gaps.elem c then (scan .bare none rest).map (word.toList ++ ·)
    else if c = '\'' then scan .single (some (word.getD [])) rest
    else if c = '"' then scan .double (some (word.getD [])) rest
    else if metacharacters.elem c then none
    else scan .bare (some (word.getD [] ++ [c])) rest
  | .single, word, c :: rest =>
    if c = '\'' then scan .bare word rest else scan .single (some (word.getD [] ++ [c])) rest
  | .double, word, c :: rest =>
    if c = '"' then scan .bare word rest
    else if expandedInDouble.elem c then none
    else scan .double (some (word.getD [] ++ [c])) rest

/-- The words of a line, if it is a single simple command without a character that the shell acts on. -/
def words? (line : Text) : Option (List Text) := scan .bare none line

example : words? "input text a%sb''\"'\"'''&'".toList =
    some ["input".toList, "text".toList, "a%sb'&".toList] := by decide

example : words? "input text a;reboot".toList = none := by decide

/-! ## Arguments -/

variable {argument value other more : Text} {c : Char}

/-- Wherever it stands outside quotes, the shell reads the argument as the value. -/
def Gives (argument value : Text) : Prop :=
  ∀ word rest, scan .bare word (argument ++ rest) = scan .bare (some (word.getD [] ++ value)) rest

theorem Gives.append (h : Gives argument value) (h' : Gives other more) :
    Gives (argument ++ other) (value ++ more) := by
  intro word rest
  rw [List.append_assoc, h, h', Option.getD_some, List.append_assoc]

/-- A character that needs no quotes has no meaning of its own. -/
theorem scan_bare_of_isBare (h : Text.isBare c = true) (word : Option Text) (rest : Text) :
    scan .bare word (c :: rest) = scan .bare (some (word.getD [] ++ [c])) rest := by
  have hspecial : (gaps ++ metacharacters ++ ['\'', '"']).any Text.isBare = false := by decide
  have hc : c ∉ gaps ++ metacharacters ++ ['\'', '"'] := by
    intro hmem
    exact List.any_eq_false.1 hspecial c hmem h
  simp only [List.mem_append, List.mem_cons, List.not_mem_nil, or_false, not_or] at hc
  obtain ⟨⟨hgap, hmeta⟩, hsingle, hdouble⟩ := hc
  simp [scan, hgap, hmeta, hsingle, hdouble]

theorem gives_singleton (h : Text.isBare c = true) : Gives [c] [c] := scan_bare_of_isBare h

/-- A text of characters that need no quotes is read as it stands. -/
theorem gives_of_bare (hne : value ≠ []) (h : ∀ c ∈ value, Text.isBare c = true) : Gives value value := by
  induction value with
  | nil => exact absurd rfl hne
  | cons c rest ih =>
    have hc : Gives [c] [c] := gives_singleton (h c List.mem_cons_self)
    cases rest with
    | nil => exact hc
    | cons d rest => exact hc.append (ih (List.cons_ne_nil d rest) fun e he => h e (.tail c he))

/-- A quoted character is read as itself, whichever it is. -/
theorem gives_quoteChar (c : Char) : Gives (Text.quoteChar c) [c] := by
  rw [Text.quoteChar]
  split
  · next h => exact gives_singleton h
  · split
    · next h =>
      subst h
      intro word rest
      simp [scan, gaps, expandedInDouble]
    · next h =>
      intro word rest
      simp [scan, gaps, h]

/-- A character as the typing command takes it: a space is written differently. -/
def spacedChar (c : Char) : Text := if c = ' ' then "%s".toList else [c]

/-- A text with `%s` for each space, and every other character as it is. -/
def spaced (t : Text) : Text := t.flatMap spacedChar

theorem gives_typedChar (c : Char) : Gives (Text.typedChar c) (spacedChar c) := by
  rw [Text.typedChar, spacedChar]
  split
  · exact gives_of_bare (by decide) (List.all_eq_true.1 (by decide))
  · exact gives_quoteChar c

/-- A text to be typed is read as the text with `%s` for each space. -/
theorem gives_typedWord {t : Text} (h : t ≠ []) : Gives t.typedWord (spaced t) := by
  induction t with
  | nil => exact absurd rfl h
  | cons c rest ih =>
    cases rest with
    | nil =>
      simpa [Text.typedWord, spaced] using gives_typedChar c
    | cons d rest =>
      rw [Text.typedWord, List.flatMap_cons, ← Text.typedWord, spaced, List.flatMap_cons, ← spaced]
      exact (gives_typedChar c).append (ih (List.cons_ne_nil d rest))

/-! ## Numbers -/

theorem isBare_of_isDigit (h : c.isDigit = true) : Text.isBare c = true := by
  simp only [Char.isDigit, Bool.and_eq_true, decide_eq_true_eq] at h
  have hrange : '0' ≤ c ∧ c ≤ '9' := h
  simp [Text.isBare, hrange]

theorem gives_ofNat (n : Nat) : Gives (Text.ofNat n) (Text.ofNat n) :=
  gives_of_bare Nat.toDigits_ne_nil fun _ hc =>
    isBare_of_isDigit (Nat.isDigit_of_mem_toDigits (by decide) (by decide) hc)

/-- A written integer is read as it stands, with its sign if it has one. -/
theorem gives_ofInt (n : Int) : Gives (Text.ofInt n) (Text.ofInt n) := by
  cases n with
  | ofNat n => exact gives_ofNat n
  | negSucc n => exact (gives_singleton (by decide)).append (gives_ofNat (n + 1))

/-! ## Lines -/

/-- A space ends a word. -/
theorem scan_space (word : Text) (rest : Text) :
    scan .bare (some word) (' ' :: rest) = (words? rest).map (word :: ·) := by
  simp [scan, gaps, words?]

theorem words?_of_gives (h : Gives argument value) : words? argument = some [value] := by
  have hread := h none []
  rwa [List.append_nil] at hread

/-- Arguments that are joined with spaces are read as their values. -/
theorem words?_intercalate {arguments values : List Text} (h : List.Forall₂ Gives arguments values) :
    words? ([' '].intercalate arguments) = some values := by
  induction h with
  | nil => rfl
  | @cons argument value arguments values hfirst hrest ih =>
    cases hrest with
    | nil =>
      rw [List.intercalate_singleton]
      exact words?_of_gives hfirst
    | cons _ _ =>
      rw [List.intercalate_cons_cons, List.append_assoc, words?, hfirst, List.singleton_append,
        scan_space, ih]
      rfl

end ScreenScript.Shell
