import ScreenScript.Routine

/-!
# Pauses

A pause of some milliseconds; none at all for zero or less.
-/

namespace ScreenScript

namespace Pause

/-- A thousand, the number of milliseconds of a second. -/
def thousand : Scalar := .real (.ofDecimal false 1000 0)

/-- How many seconds a pause lasts, if there is one. -/
def seconds (milliseconds : Scalar) : Except ArithmeticError (Option Binary64) :=
  if milliseconds.isNonPositive then
    .ok none
  else
    (milliseconds.div thousand).map some

end Pause

/-- Waits. -/
def Routine.pause {σ : Type} (milliseconds : Scalar) : Routine σ Unit :=
  match Pause.seconds milliseconds with
  | .error error => Routine.fail (.arithmetic error)
  | .ok none => pure ()
  | .ok (some _) => Routine.emit (.slept milliseconds)

end ScreenScript
