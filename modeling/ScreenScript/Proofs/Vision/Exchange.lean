import ScreenScript.Proofs.Routine
import ScreenScript.Run.Screen

/-!
# What a request does

A request to the vision service that has a destination is sent once, whatever comes of it. One that has
none is not sent at all, and only the lack of an address is a fault that a run survives: that a request cannot be
made is never a declared fault of the library.

* `VisionService.exchange` — what a request does
* `VisionService.post_effect` — that it does so, and counts the requests
* `VisionService.url_of_destination` — the one fault of the service behind a request that is not sent
-/

namespace ScreenScript

namespace VisionService

variable {service : VisionService} {request : VisionRequest} {fault : Fault} {sent : Nat}

/-- What a request does: it is sent once if it has a destination. -/
def exchange (service : VisionService) (request : VisionRequest) : List Event :=
  match service.destination request with
  | .ok address => [.posted address service.apiKey service.clientKey request]
  | .error _ => []

/-- What a request does and how it is counted, whether it has a result or not. -/
theorem post_effect (service : VisionService) (request : VisionRequest) (sent : Nat) :
    (service.post request sent).state = sent + (service.exchange request).length ∧
      (service.post request sent).trace = service.exchange request := by
  rw [exchange, post]
  cases hd : service.destination request with
  | error fault => exact ⟨rfl, rfl⟩
  | ok address =>
    refine Routine.effect_behind (Routine.yields_ofExcept.2 ⟨rfl, rfl, rfl⟩) ?_
    refine Routine.effect_behind ((Routine.yields_emit (u := ())).2 ⟨rfl, rfl⟩) ?_
    refine Routine.effect_behind (Routine.yields_get.2 ⟨rfl, rfl, rfl⟩) ?_
    refine Routine.effect_behind ((Routine.yields_set (u := ())).2 ⟨rfl, rfl⟩) ?_
    -- the answer is only read: nothing behind the sending has an effect
    refine Routine.silent_bind Routine.silent_ofExcept (fun answer => ?_) _
    refine Routine.silent_bind Routine.silent_ofExcept fun text => ?_
    refine Routine.silent_bind Routine.silent_say fun _ => ?_
    split
    · exact Routine.silent_fail
    · exact Routine.silent_pure

theorem processStep_effect (service : VisionService) (request : StepRequest) (sent : Nat) :
    (service.processStep request sent).state = sent + (service.exchange (.step request)).length ∧
      (service.processStep request sent).trace = service.exchange (.step request) := by
  refine Routine.effect_bind (post_effect service (.step request) sent) fun text => ?_
  split
  · exact Routine.silent_pure
  · exact Routine.silent_fail

theorem summarize_effect (service : VisionService) (script context : Text) (sent : Nat) :
    (service.summarize script context sent).state =
        sent + (service.exchange (.summary script context)).length ∧
      (service.summarize script context sent).trace = service.exchange (.summary script context) := by
  refine Routine.effect_bind (post_effect service (.summary script context) sent) fun text => ?_
  split
  · exact Routine.silent_pure
  · exact Routine.silent_fail

/-- A request without a destination breaks off with the reason. -/
theorem summarize_of_refused {script context : Text}
    (h : service.destination (.summary script context) = .error fault) :
    (service.summarize script context sent).result = .error fault := by
  rw [summarize, Routine.bind_of_error]
  rw [post, h]
  rfl

/-- Where the address of the service is given, it is up to the library whether a request can be made. -/
theorem destination_of_url (h : service.url ≠ []) :
    service.destination request =
      (service.web.build service.url service.apiKey service.clientKey request).mapError .web :=
  if_neg h

/-- The lack of an address is the only fault of the service for which a request has no destination. -/
theorem url_of_destination {fault : VisionFault}
    (h : service.destination request = .error (.vision fault)) : service.url = [] := by
  by_cases hurl : service.url = []
  · exact hurl
  · rw [destination_of_url hurl] at h
    cases hbuild : service.web.build service.url service.apiKey service.clientKey request with
    | ok address =>
      rw [hbuild] at h
      cases h
    | error fault' =>
      rw [hbuild] at h
      cases h

/-- Without an address, no request has a destination. -/
theorem exchange_of_unconfigured (h : service.url = []) : service.exchange request = [] := by
  rw [exchange, destination, if_pos h]

end VisionService

end ScreenScript
