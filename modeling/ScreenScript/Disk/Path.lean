import ScreenScript.Text.Basic

/-!
# Paths

A path is written with slashes between the names on the way. Empty names and single dots say nothing
and are left out; `..` stays, since only the files decide where it leads. A path that begins with a
slash starts at the root, and exactly two slashes at the beginning are kept as such.
-/

namespace ScreenScript

/-- Where a path starts. -/
inductive PathStart
  /-- at the current folder -/
  | here
  /-- at the root -/
  | root
  /-- at the root, written with two slashes -/
  | twoSlashes
  deriving DecidableEq, Repr, Inhabited

/-- A path: where it starts, and the names on the way. -/
structure Path where
  /-- where it starts -/
  start : PathStart := .here
  /-- the names on the way; none is empty or a single dot, and none holds a slash -/
  names : List Text := []
  deriving DecidableEq, Repr, Inhabited

namespace Path

/-- Where the path that a text stands for starts. -/
def startOf : Text → PathStart
  | '/' :: '/' :: '/' :: _ => .root
  | '/' :: '/' :: _ => .twoSlashes
  | '/' :: _ => .root
  | _ => .here

/-- The path that a text stands for. -/
def ofText (t : Text) : Path where
  start := startOf t
  names := (t.fields '/').filter fun name => name ≠ [] && name ≠ ['.']

/-- The path behind another one; a path that starts at the root stands for itself. -/
def join (base path : Path) : Path :=
  if path.start = .here then { base with names := base.names ++ path.names } else path

/-- The path that a text stands for, behind another one. -/
def child (base : Path) (t : Text) : Path := base.join (ofText t)

/-- The path without its last name. -/
def parent (path : Path) : Path := { path with names := path.names.dropLast }

/-- The text of where a path starts. -/
def startText : PathStart → Text
  | .here => []
  | .root => ['/']
  | .twoSlashes => ['/', '/']

/-- The text of a path. -/
def toText (path : Path) : Text :=
  match startText path.start ++ ['/'].intercalate path.names with
  | [] => ['.']
  | t => t

/-- Names with each `..` and the name before it removed, the nearest name first. -/
def climb : List Text → List Text → List Text
  | up, [] => up
  | up, name :: rest => if name = "..".toList then climb up.tail rest else climb (name :: up) rest

/-- The path from the root that leads to the same place, if the names of the current folder are
`here` and no name on the way is an alias. -/
def absolute (here : List Text) (path : Path) : Path :=
  match path.start with
  | .here => { start := .root, names := (climb here.reverse path.names).reverse }
  | .root => { start := .root, names := (climb [] path.names).reverse }
  | .twoSlashes => { start := .twoSlashes, names := (climb [] path.names).reverse }

/-! ## Small laws -/

@[simp] theorem join_empty (base : Path) : base.join {} = base := by simp [join]

end Path

end ScreenScript
