import ScreenScript.Number.Scalar

/-!
# The context of a run

What is carried from step to step: the description of what is tested, what has been seen since it was
given, the identity of the last response, and the factor by which the last screenshot was scaled.
-/

namespace ScreenScript

/-- The context of a run. -/
structure RunContext where
  /-- the factor by which the last screenshot was scaled -/
  factor : Scalar := .real .one
  /-- the last description and what has been seen since -/
  seen : List Text := []
  /-- the identity of the last response, if it had one -/
  previous : Option Text := none
  /-- the last description -/
  description : Text := []
  deriving DecidableEq, Repr, Inhabited

namespace RunContext

/-- The context with a new description; what was seen before is forgotten. -/
def describe (context : RunContext) (description : Text) : RunContext :=
  { context with description, seen := [description] }

/-- The context with something more that was seen. -/
def append (context : RunContext) (text : Text) : RunContext :=
  { context with seen := context.seen ++ [text] }

/-- All that was seen, line by line. -/
def joined (context : RunContext) : Text := ['\n'].intercalate context.seen

/-- The coordinate on the device of a coordinate on a picture that was scaled by `factor`: divided by
the factor, and a half is rounded up. -/
def toDevice (factor value : Scalar) : Except ArithmeticError Int := do
  ((← value.div factor).add .half).asInt Binary64.floor?

/-! ## Small laws -/

@[simp] theorem seen_describe (context : RunContext) (t : Text) : (context.describe t).seen = [t] := rfl

@[simp] theorem seen_append (context : RunContext) (t : Text) :
    (context.append t).seen = context.seen ++ [t] := rfl

end RunContext

end ScreenScript
