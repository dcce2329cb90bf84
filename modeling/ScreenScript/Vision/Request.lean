import ScreenScript.Disk.Basic
import ScreenScript.Script.Task
import ScreenScript.Text.Base64

/-!
# Requests to the vision service

A request for a step sends the picture of a screen with everything that is known about it; a request
for a summary sends the script and what has been seen while it ran.
-/

namespace ScreenScript

/-- An image as it is sent. -/
inductive EncodedImage
  /-- a text that is sent as it stands -/
  | text (t : Text)
  /-- the Base64 text of the content of a file -/
  | file (content : Content)
  deriving DecidableEq, Repr, Inhabited

namespace EncodedImage

/-- The text that is sent. -/
def toText : EncodedImage → Text
  | text t => t
  | file content => Base64.encode content.toOctets

end EncodedImage

/-- A request to process a step. -/
structure StepRequest where
  /-- the picture of the screen -/
  image : EncodedImage
  /-- the name of the step -/
  stepName : Text
  /-- what is tested -/
  description : Text
  /-- what has to be true on the screen -/
  assertions : List Text := []
  /-- what is to be done on it -/
  actions : List Text := []
  /-- how freely the service may answer -/
  temperature : Scalar := .real (StepKind.temperature .normal)
  /-- what has been seen so far -/
  context : Text := []
  /-- the identity of the last response, if it had one -/
  previous : Option Text := none
  /-- whether no step follows in the script -/
  isLast : Bool := false
  deriving DecidableEq, Repr, Inhabited

/-- A request to the vision service. -/
inductive VisionRequest
  /-- process a step -/
  | step (request : StepRequest)
  /-- sum a run up -/
  | summary (script context : Text)
  deriving DecidableEq, Repr, Inhabited

namespace VisionRequest

/-- Whether a number can be sent: it has to be finite and must not have too many digits. -/
def isSendableNumber : Scalar → Bool
  | .int n => (Text.writeInt? n).isSome
  | .real x => x.isFinite

/-- Whether the numbers of a request can be sent. -/
def isSendable : VisionRequest → Bool
  | step request => isSendableNumber request.temperature
  | summary _ _ => true

end VisionRequest

end ScreenScript
