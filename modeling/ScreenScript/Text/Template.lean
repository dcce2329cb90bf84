import ScreenScript.Text.Digit

/-!
# Templates

A template is a text with fields in braces, each of which asks for a value by its name. Behind the name, a field
may say which part of the value it asks for, and in which format. A brace of the text itself is written twice.

* `Template.read` — the letters and fields of a template
* `Template.fill` — the text that a template gives where there is one value
* `Template.fill_double` — a text with its braces doubled stands for itself
-/

namespace ScreenScript

/-- Why a template gives no text. -/
inductive TemplateFlaw
  /-- a brace stands alone -/
  | strayBrace
  /-- a field has no end, or is malformed -/
  | malformedField
  /-- a field asks for a value by a number, or not at all -/
  | namelessField
  /-- there is no value of this name -/
  | unknownName (name : Text)
  /-- the value cannot be written in the way that the field asks for -/
  | unwritable (field : Text)
  deriving DecidableEq, Repr

/-- The flaw in words. -/
def TemplateFlaw.message : TemplateFlaw → Text
  | strayBrace => "single brace in a template".toList
  | malformedField => "malformed field in a template".toList
  | namelessField => "field without a name in a template".toList
  | unknownName name => "no value named ".toList ++ name
  | unwritable field => "cannot write ".toList ++ field

namespace Template

/-- A piece of a template. -/
inductive Piece
  /-- a letter of the text -/
  | letter (c : Char)
  /-- what stands between the braces of a field -/
  | field (content : Text)
  deriving DecidableEq, Repr

/-- A place in a field. -/
inductive FieldPlace
  /-- in the name, or in what follows it -/
  | name
  /-- between square brackets, where no character but the closing one counts -/
  | index
  /-- behind an exclamation mark -/
  | mark
  /-- behind the letter behind this mark -/
  | conversion
  /-- in the format, with so many braces open in it -/
  | format (depth : Nat)
  deriving DecidableEq, Repr

/-- The place behind a character; nothing if the character closes the field. -/
def FieldPlace.next : FieldPlace → Char → Except TemplateFlaw (Option FieldPlace)
  | name, '}' => .ok none
  | name, '{' => .error .malformedField
  | name, '[' => .ok (some index)
  | name, '!' => .ok (some mark)
  | name, ':' => .ok (some (format 0))
  | name, _ => .ok (some name)
  | index, ']' => .ok (some name)
  | index, _ => .ok (some index)
  | mark, _ => .ok (some conversion)
  | conversion, '}' => .ok none
  | conversion, ':' => .ok (some (format 0))
  | conversion, _ => .error .malformedField
  | format depth, '{' => .ok (some (format (depth + 1)))
  | format 0, '}' => .ok none
  | format (depth + 1), '}' => .ok (some (format depth))
  | format depth, _ => .ok (some (format depth))

/-- A place in a template. -/
inductive Place
  /-- in the text -/
  | text
  /-- behind a brace that opens a field, or is the first of two -/
  | opening
  /-- behind a brace that has to be the first of two -/
  | closing
  /-- in a field, behind a part of its content -/
  | field (place : FieldPlace) (content : Text)
  deriving DecidableEq, Repr

/-- What a character completes in a field, and the place behind it. -/
def inField (place : FieldPlace) (content : Text) (c : Char) : Except TemplateFlaw (List Piece × Place) :=
  match place.next c with
  | .error flaw => .error flaw
  | .ok none => .ok ([.field content], .text)
  | .ok (some next) => .ok ([], .field next (content ++ [c]))

/-- What a character completes, and the place behind it. -/
def Place.next : Place → Char → Except TemplateFlaw (List Piece × Place)
  | text, c =>
    if c = '{' then .ok ([], opening)
    else if c = '}' then .ok ([], closing)
    else .ok ([.letter c], text)
  | opening, c => if c = '{' then .ok ([.letter '{'], text) else inField .name [] c
  | closing, c => if c = '}' then .ok ([.letter '}'], text) else .error .strayBrace
  | field place content, c => inField place content c

/-- The pieces of a template from a place on. -/
def readFrom : Place → Text → Except TemplateFlaw (List Piece)
  | .text, [] => .ok []
  | .field _ _, [] => .error .malformedField
  | .opening, [] | .closing, [] => .error .strayBrace
  | place, c :: rest =>
    match place.next c with
    | .error flaw => .error flaw
    | .ok (pieces, next) => (readFrom next rest).map (pieces ++ ·)

/-- The pieces of a template. -/
def read (template : Text) : Except TemplateFlaw (List Piece) := readFrom .text template

/-- The name at the beginning of a field. -/
def nameOf (content : Text) : Text := content.takeWhile fun c => !List.elem c ['.', '[', '!', ':']

/-- What a field gives where one value has a name. `written` is the value in the way that the rest of the field
asks for. -/
def fieldValue (name : Text) (written : Text → Option Text) (content : Text) : Except TemplateFlaw Text :=
  if (nameOf content).all Text.isDigit then
    .error .namelessField
  else if nameOf content = name then
    match written (content.drop name.length) with
    | some t => .ok t
    | none => .error (.unwritable content)
  else
    .error (.unknownName (nameOf content))

/-- What pieces give, one behind the other. -/
def fillPieces (name : Text) (written : Text → Option Text) : List Piece → Except TemplateFlaw Text
  | [] => .ok []
  | .letter c :: rest => (fillPieces name written rest).map (c :: ·)
  | .field content :: rest =>
    match fieldValue name written content with
    | .error flaw => .error flaw
    | .ok t => (fillPieces name written rest).map (t ++ ·)

/-- The text that a template gives where one value has a name. The whole template is read first. -/
def fill (name : Text) (written : Text → Option Text) (template : Text) : Except TemplateFlaw Text :=
  match read template with
  | .error flaw => .error flaw
  | .ok pieces => fillPieces name written pieces

/-! ## Small laws -/

/-- Whether a character is a brace. -/
def isBrace (c : Char) : Bool := c = '{' || c = '}'

/-- The text with its braces doubled. -/
def double (t : Text) : Text := t.flatMap fun c => if isBrace c then [c, c] else [c]

theorem readFrom_of_next {place next : Place} {c : Char} {pieces : List Piece} (rest : Text)
    (h : place.next c = .ok (pieces, next)) :
    readFrom place (c :: rest) = (readFrom next rest).map (pieces ++ ·) := by
  cases place <;> rw [readFrom, h]

/-- The two braces that stand for one. -/
theorem readFrom_brace {c : Char} (h : isBrace c = true) (rest : Text) :
    readFrom .text (c :: c :: rest) = (readFrom .text rest).map (.letter c :: ·) := by
  have hbraces : ∃ next, Place.text.next c = .ok ([], next) ∧ next.next c = .ok ([.letter c], .text) := by
    rw [isBrace, Bool.or_eq_true, decide_eq_true_eq, decide_eq_true_eq] at h
    rcases h with rfl | rfl
    · exact ⟨.opening, rfl, rfl⟩
    · exact ⟨.closing, rfl, rfl⟩
  obtain ⟨next, hfirst, hsecond⟩ := hbraces
  rw [readFrom_of_next _ hfirst, readFrom_of_next _ hsecond]
  cases readFrom .text rest <;> rfl

theorem readFrom_letter {c : Char} (h : isBrace c = false) (rest : Text) :
    readFrom .text (c :: rest) = (readFrom .text rest).map (.letter c :: ·) := by
  rw [isBrace, Bool.or_eq_false_iff, decide_eq_false_iff_not, decide_eq_false_iff_not] at h
  have hnext : Place.text.next c = .ok ([.letter c], .text) := by rw [Place.next, if_neg h.1, if_neg h.2]
  exact readFrom_of_next rest hnext

theorem read_double (t : Text) : read (double t) = .ok (t.map .letter) := by
  induction t with
  | nil => rfl
  | cons c rest ih =>
    rw [read] at ih
    rw [read, double, List.flatMap_cons, ← double, List.map_cons]
    cases hbrace : isBrace c with
    | true => rw [if_pos rfl, List.cons_append, List.singleton_append, readFrom_brace hbrace, ih]; rfl
    | false => rw [if_neg Bool.false_ne_true, List.singleton_append, readFrom_letter hbrace, ih]; rfl

theorem fillPieces_letters (name : Text) (written : Text → Option Text) (t : Text) :
    fillPieces name written (t.map .letter) = .ok t := by
  induction t with
  | nil => rfl
  | cons c rest ih => rw [List.map_cons, fillPieces, ih]; rfl

/-- A text with its braces doubled stands for itself. -/
theorem fill_double (name : Text) (written : Text → Option Text) (t : Text) :
    fill name written (double t) = .ok t := by
  rw [fill, read_double]
  exact fillPieces_letters name written t

theorem double_of_no_brace {t : Text} (h : t.any isBrace = false) : double t = t := by
  induction t with
  | nil => rfl
  | cons c rest ih =>
    rw [List.any_cons, Bool.or_eq_false_iff] at h
    rw [double, List.flatMap_cons, ← double, h.1, ih h.2]
    rfl

/-- A text without braces stands for itself. -/
theorem fill_of_no_brace (name : Text) (written : Text → Option Text) {t : Text} (h : t.any isBrace = false) :
    fill name written t = .ok t := by
  rw [← double_of_no_brace h, fill_double, double_of_no_brace h]

end Template

end ScreenScript
