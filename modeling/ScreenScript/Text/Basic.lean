/-!
# Text

Everything this library reads or writes is text, and every rule about it speaks of characters.
A text is therefore the list of its characters, and the operations are recursions on that list.

* `Text.contains` — one text occurs inside another
* `Text.fields` — the pieces between separators
* `Text.replaceChar` — one character for another, everywhere
-/

namespace ScreenScript

/-- A text: its characters, in order. -/
abbrev Text := List Char

namespace Text

/-- Whether `needle` occurs somewhere in the text, as one uninterrupted piece. -/
def contains (needle : Text) : Text → Bool
  | [] => needle.isEmpty
  | c :: rest => needle.isPrefixOf (c :: rest) || contains needle rest

/-- The pieces between the occurrences of `separator`. There is always at least one, and pieces
may be empty. -/
def fields (separator : Char) : Text → List Text
  | [] => [[]]
  | c :: rest =>
    if c = separator then
      [] :: fields separator rest
    else
      match fields separator rest with
      | [] => [[c]]
      | piece :: pieces => (c :: piece) :: pieces

/-- The text with `new` for every `old`. -/
def replaceChar (old new : Char) (t : Text) : Text :=
  t.map fun c => if c = old then new else c

/-- Whether all characters of a text are ASCII. -/
def isAscii (t : Text) : Bool := t.all fun c => c.toNat < 0x80

/-- Whether a text is another one or comes before it, character by character. -/
def isAtMost : Text → Text → Bool
  | [], _ => true
  | _ :: _, [] => false
  | a :: s, b :: t => if a = b then isAtMost s t else a.toNat < b.toNat

/-- The text cut behind the last occurrence of `c`: what comes before it and what follows it. -/
def cutLast? (c : Char) (t : Text) : Option (Text × Text) :=
  let tail := t.reverse.takeWhile (· ≠ c)
  if tail.length < t.length then
    some (t.take (t.length - tail.length - 1), tail.reverse)
  else
    none

/-- The text of a natural number in decimal digits. -/
def ofNat (n : Nat) : Text := Nat.toDigits 10 n

/-- The text of an integer in decimal digits, with a sign if it is negative. -/
def ofInt : Int → Text
  | .ofNat n => ofNat n
  | .negSucc n => '-' :: ofNat (n + 1)

/-! ## Small laws -/

@[simp] theorem contains_nil (t : Text) : contains [] t = true := by
  cases t <;> simp [contains]

theorem contains_iff {needle t : Text} : contains needle t = true ↔ needle <:+: t := by
  induction t with
  | nil => simp [contains]
  | cons c rest ih => simp [contains, ih, List.infix_cons_iff]

theorem fields_ne_nil (separator : Char) (t : Text) : fields separator t ≠ [] := by
  cases t with
  | nil => simp [fields]
  | cons c rest =>
    rw [fields]
    split
    · simp
    · split <;> simp

@[simp] theorem length_replaceChar (old new : Char) (t : Text) :
    (replaceChar old new t).length = t.length := by
  simp [replaceChar]

end Text

end ScreenScript
