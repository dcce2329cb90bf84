import ScreenScript.Vision.Request
import ScreenScript.Web.Flaw

/-!
# Libraries for the web

A library makes a request out of an address, two keys and what is to be sent, has it carried to a server, and
makes an answer of what comes back. Which addresses and keys it takes, how it reads an answer and in which
characters the text of it is written are its own affair. To make a request and to decode a text are no dealings
with a server, so what goes wrong in them is never a declared fault.

* `Delivery` — what a request meets
* `WebAnswer`, `WebLibrary` — an answer, and a library
* `WebLibrary.AsciiOnly` — what is documented of keys
-/

namespace ScreenScript

/-- What a request meets. -/
inductive Delivery
  /-- the server cannot be reached -/
  | failed (reason : Text)
  /-- what carries requests breaks off -/
  | broken (fault : WebFault)
  /-- the server answers -/
  | answered (status : Int) (headers : List (Text × Text)) (body : Octets)
  deriving DecidableEq, Repr, Inhabited

/-- An answer, as a library hands it on. -/
structure WebAnswer where
  /-- the status -/
  status : Int
  /-- the value of the header with a name -/
  header : Text → Option Text
  /-- the body, decoded -/
  text : Except WebFault Text

/-- A library for the web, as far as requests to the service need one. -/
structure WebLibrary where
  /-- makes a request to an address with two keys; the result is the address that it goes to -/
  build : Text → Text → Text → VisionRequest → Except WebFault Text
  /-- what becomes of what a request to an address meets -/
  receive : Text → Delivery → Except WebFlaw WebAnswer

/-- Keys stand in headers, which are ASCII. -/
def WebLibrary.AsciiOnly (library : WebLibrary) : Prop :=
  ∀ url apiKey clientKey request address, library.build url apiKey clientKey request = .ok address →
    apiKey.isAscii = true ∧ clientKey.isAscii = true

end ScreenScript
