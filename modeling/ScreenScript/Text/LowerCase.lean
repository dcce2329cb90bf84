import ScreenScript.Text.Basic
import ScreenScript.Text.LowerCase.Table

/-!
# Lower case

The full Unicode lower case of a text. It is not a map on characters: the capital I with a dot
becomes two characters, and a capital sigma takes its final form at the end of a word.
-/

namespace ScreenScript.Text

/-- Whether a run reaches the code point. -/
def CaseRun.covers (run : CaseRun) (code : Nat) : Bool :=
  run.first ≤ code && code ≤ run.last && (code - run.first) % run.stride = 0

/-- The lower case of a character on its own. -/
def lowerChar (c : Char) : Text :=
  if c = '\u0130' then
    ['i', '\u0307']
  else
    match caseRuns.find? (·.covers c.toNat) with
    | some run => [Char.ofNat (run.target + (c.toNat - run.first))]
    | none => [c]

/-- A letter with case, other than the ones that a search for a neighbour passes over. -/
def isCased (c : Char) : Bool :=
  casedRanges.any fun (first, last) => first ≤ c.toNat && c.toNat ≤ last

/-- A character that a search for a neighbouring letter passes over. -/
def isCaseIgnorable (c : Char) : Bool :=
  caseIgnorableRanges.any fun (first, last) => first ≤ c.toNat && c.toNat ≤ last

/-- Whether the first character that counts is a letter with case. -/
def startsCased (t : Text) : Bool := (t.dropWhile isCaseIgnorable).head?.any isCased

/-- The lower case of a text, given the characters `before` it, nearest first. A capital sigma is
final if a cased letter comes before it and none follows. -/
def lowerAfter : Text → Text → Text
  | _, [] => []
  | before, c :: rest =>
    (if c = 'Σ' then
      [if startsCased before && !startsCased rest then 'ς' else 'σ']
    else
      lowerChar c) ++ lowerAfter (c :: before) rest

/-- The lower case of a text. -/
def lower (t : Text) : Text := lowerAfter [] t

/-! ## Small laws -/

@[simp] theorem lower_nil : lower [] = [] := rfl

@[simp] theorem lowerAfter_cons (before : Text) (c : Char) (rest : Text) :
    lowerAfter before (c :: rest) =
      (if c = 'Σ' then
        [if startsCased before && !startsCased rest then 'ς' else 'σ']
      else
        lowerChar c) ++ lowerAfter (c :: before) rest := rfl

end ScreenScript.Text
