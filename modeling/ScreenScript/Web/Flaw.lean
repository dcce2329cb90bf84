import ScreenScript.Text.Basic

/-!
# Faults of a library for the web

A library that sends requests declares some of its faults: that a server cannot be reached, takes too long or
answers something that is no answer. Those are expected. Whatever else goes wrong in it is not.

* `WebFault` — a fault that the library does not declare
* `WebFlaw` — why the library has no answer
-/

namespace ScreenScript

/-- A fault that is not declared, of some kind. -/
structure WebFault where
  /-- what kind of fault it is -/
  kind : Text
  /-- the fault in words -/
  message : Text
  deriving DecidableEq, Repr, Inhabited

/-- The fault of a kind with a message. -/
def WebFault.ofStrings (kind message : String) : WebFault := ⟨kind.toList, message.toList⟩

/-- Why a library has no answer. -/
inductive WebFlaw
  /-- a declared fault -/
  | declared (message : Text)
  /-- any other one -/
  | other (fault : WebFault)
  deriving DecidableEq, Repr, Inhabited

end ScreenScript
