import ScreenScript.Text.Utf8

/-!
# What a file holds

A file holds octets and nothing else; whether these are a text or a picture is for others to say.
-/

namespace ScreenScript

/-- What a file holds. -/
structure Content where
  octets ::
  /-- its octets -/
  toOctets : Octets
  deriving DecidableEq, Repr, Inhabited

/-- Whether a file is empty. -/
def Content.isEmpty (content : Content) : Bool := content.toOctets.isEmpty

end ScreenScript
