import ScreenScript.Compression.Inflate
import ScreenScript.Web.Header

/-!
# Packed answers

The body of an answer may be compressed, once or several times, as a header says.

* `Packing.unpack` — the body as it was before
-/

namespace ScreenScript

/-- How a body is compressed. -/
inductive Packing
  /-- as a file -/
  | file
  /-- in a frame or without one -/
  | framed
  deriving DecidableEq, Repr

namespace Packing

/-- The packings by name. -/
def names : List (Text × Packing) := [("gzip".toList, file), ("deflate".toList, framed)]

/-- The packings that a value lists, the first one first. Other names say nothing. -/
def listed (value : Text) : List Packing :=
  (value.fields ',').filterMap fun name => names.lookup name.trim.lower

/-- The body before one packing. -/
def undo (packing : Packing) (body : Octets) : Except InflateFlaw Octets :=
  match packing with
  | file => Inflate.file body
  | framed =>
    match Inflate.framed body with
    | .ok octets => .ok octets
    | .error _ => Inflate.plain body

/-- The body before all packings that its headers list. -/
def unpack (headers : List (Text × Text)) (body : Octets) : Except InflateFlaw Octets :=
  let packings := listed ((Header.value? "content-encoding".toList headers).getD [])
  packings.reverse.foldlM (fun body packing => packing.undo body) body

end Packing

end ScreenScript
