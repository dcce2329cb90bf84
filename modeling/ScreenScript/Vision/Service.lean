import ScreenScript.Routine
import ScreenScript.Vision.Response
import ScreenScript.Web.Plain

/-!
# The vision service

A service is an address with two keys, and the deliveries that requests to it will meet: the first
request the first one, and so on. Nothing is ever sent twice. How a request is made, what becomes of a delivery
and what a text stands for is up to two libraries.

* `VisionService.post` — one request, up to the text of the answer
* `VisionService.processStep`, `summarize` — the two kinds of requests
-/

namespace ScreenScript

/-- The vision service. -/
structure VisionService where
  /-- the address -/
  url : Text
  /-- the key of the service -/
  apiKey : Text
  /-- the key of the client -/
  clientKey : Text
  /-- what the requests will meet, one after the other -/
  deliveries : Nat → Delivery
  /-- the library that sends requests -/
  web : WebLibrary := .plain
  /-- the library that validates responses -/
  validator : Validator := .plain

namespace VisionService

/-- The header that says whether an answer was kept from an earlier request. -/
def cacheHeader : Text := "x-cache-status".toList

/-- The least status of an answer that refuses the request. -/
def leastRefusal : Int := 400

/-- Where a request is sent, or why it cannot be. -/
def destination (service : VisionService) (request : VisionRequest) : Except Fault Text :=
  if service.url = [] then
    .error (.vision .unconfigured)
  else
    (service.web.build service.url service.apiKey service.clientKey request).mapError .web

/-- The fault that something is for which the library has no answer. -/
def flawFault : WebFlaw → Fault
  | .declared message => .vision (.unreachable message)
  | .other fault => .web fault

/-- Sends a request and returns the text of the answer. The state is the number of requests sent. -/
def post (service : VisionService) (request : VisionRequest) : Routine Nat Text := do
  let address ← Routine.ofExcept id (service.destination request)
  Routine.emit (.posted address service.apiKey service.clientKey request)
  let sent ← Routine.get
  Routine.set (sent + 1)
  let answer ← Routine.ofExcept flawFault (service.web.receive service.url (service.deliveries sent))
  let text ← Routine.ofExcept .web answer.text
  let cached := (answer.header cacheHeader).getD "None".toList
  Routine.say .debug (cached ++ " 原始响应: ".toList ++ text)
  if leastRefusal ≤ answer.status then
    Routine.fail (.vision (.refused answer.status text))
  else
    return text

/-- Has a step processed. -/
def processStep (service : VisionService) (request : StepRequest) : Routine Nat StepResponse := do
  let text ← service.post (.step request)
  match StepResponse.ofText service.validator text with
  | .valid response => return response
  | .invalid complaints => Routine.fail (.vision (.malformedStep complaints))

/-- Has a run summed up. -/
def summarize (service : VisionService) (script context : Text) : Routine Nat SummaryResponse := do
  let text ← service.post (.summary script context)
  match SummaryResponse.ofText service.validator text with
  | .valid response => return response
  | .invalid complaints => Routine.fail (.vision (.malformedSummary complaints))

end VisionService

end ScreenScript
