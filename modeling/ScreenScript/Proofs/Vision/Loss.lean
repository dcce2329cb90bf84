import ScreenScript.Proofs.Run.Lineage

/-!
# How a request is lost

A request may fail because of the service: there is no address for it, nothing comes back, or the answer is
not what it has to be. Those faults are expected. There are others: the library may fail to make the request, to
take what comes back, or to decode the text of an answer, and not declare this.

* `VisionService.Unsendable`, `VisionService.Unreadable`, `VisionService.Lost` — the other faults, of what is
  sent, of what comes back, and of a request as a whole
* `VisionService.lost_iff_post`, `VisionService.lost_iff_summarize` — a request breaks off with just these
* `VisionService.unsendable_of_not_ascii` — keys that are not ASCII
-/

namespace ScreenScript.VisionService

variable {service : VisionService} {request : VisionRequest} {delivery : Delivery} {address : Text}
  {fault : Fault} {sent : Nat}

/-! ## Answers -/

/-- Why what a request meets cannot be read, although the service may not be to blame. -/
inductive Unreadable (service : VisionService) (delivery : Delivery) : Fault → Prop
  /-- the library fails to take it -/
  | untaken {fault : WebFault} : service.web.receive service.url delivery = .error (.other fault) →
    Unreadable service delivery (.web fault)
  /-- the library fails to decode its text -/
  | undecoded {answer : WebAnswer} {fault : WebFault} :
    service.web.receive service.url delivery = .ok answer → answer.text = .error fault →
    Unreadable service delivery (.web fault)

/-- An answer has no text, and not because of the service, just if it cannot be read. -/
theorem unreadable_iff :
    service.Unreadable delivery fault ↔
      service.answerText delivery = .error fault ∧ Engine.serviceFault fault = none := by
  rw [answerText]
  cases hreceive : service.web.receive service.url delivery with
  | error flaw =>
    constructor
    · intro h
      cases h with
      | untaken huntaken =>
        cases hreceive.symm.trans huntaken
        exact ⟨rfl, rfl⟩
      | undecoded hanswer => cases hreceive.symm.trans hanswer
    · rintro ⟨h, hstray⟩
      obtain rfl := Except.error.inj h
      cases flaw with
      | declared message => cases hstray
      | other fault => exact .untaken hreceive
  | ok answer =>
    dsimp only
    cases htext : answer.text with
    | error fault' =>
      constructor
      · intro h
        cases h with
        | untaken huntaken => cases hreceive.symm.trans huntaken
        | undecoded hanswer hundecoded =>
          cases hreceive.symm.trans hanswer
          cases htext.symm.trans hundecoded
          exact ⟨rfl, rfl⟩
      · rintro ⟨h, -⟩
        obtain rfl := Except.error.inj h
        exact .undecoded hreceive htext
    | ok text =>
      constructor
      · intro h
        cases h with
        | untaken huntaken => cases hreceive.symm.trans huntaken
        | undecoded hanswer hundecoded =>
          cases hreceive.symm.trans hanswer
          cases htext.symm.trans hundecoded
      · rintro ⟨h, hstray⟩
        -- a refusal is a fault of the service
        dsimp only at h
        split at h
        · obtain rfl := Except.error.inj h
          cases hstray
        · cases h

/-! ## Requests -/

/-- Why a request cannot be sent, although there is an address: the library fails to make it. -/
inductive Unsendable (service : VisionService) (request : VisionRequest) : Fault → Prop
  | unmade {fault : WebFault} : service.url ≠ [] →
    service.web.build service.url service.apiKey service.clientKey request = .error fault →
    Unsendable service request (.web fault)

/-- Why a request is lost that meets a delivery. -/
inductive Lost (service : VisionService) (request : VisionRequest) (delivery : Delivery) : Fault → Prop
  /-- it cannot be sent -/
  | unsent {fault : Fault} : service.Unsendable request fault → Lost service request delivery fault
  /-- what comes back cannot be read -/
  | unread {address : Text} {fault : Fault} :
    service.destination request = .ok address → service.Unreadable delivery fault →
    Lost service request delivery fault

/-- A request goes nowhere, and not for lack of an address, just if it cannot be sent. -/
theorem unsendable_iff :
    service.Unsendable request fault ↔
      service.destination request = .error fault ∧ Engine.serviceFault fault = none := by
  constructor
  · rintro ⟨hurl, hbuild⟩
    rw [destination_of_url hurl, hbuild]
    exact ⟨rfl, rfl⟩
  · rintro ⟨h, hstray⟩
    by_cases hurl : service.url = []
    · rw [destination, if_pos hurl] at h
      obtain rfl := Except.error.inj h
      cases hstray
    rw [destination_of_url hurl] at h
    cases hbuild : service.web.build service.url service.apiKey service.clientKey request with
    | ok address =>
      rw [hbuild] at h
      cases h
    | error fault' =>
      rw [hbuild] at h
      obtain rfl := Except.error.inj h
      exact .unmade hurl hbuild

/-- Keys that are not ASCII cannot be sent, if the library is as it is documented. -/
theorem unsendable_of_not_ascii (hlibrary : service.web.AsciiOnly) (hurl : service.url ≠ [])
    (hkeys : ¬(service.apiKey.isAscii = true ∧ service.clientKey.isAscii = true)) :
    ∃ fault, service.Unsendable request fault := by
  cases hbuild : service.web.build service.url service.apiKey service.clientKey request with
  | ok address => exact absurd (hlibrary _ _ _ _ _ hbuild) hkeys
  | error fault => exact ⟨_, .unmade hurl hbuild⟩

/-- A request that goes nowhere is lost just if it cannot be sent. -/
theorem lost_iff_of_unsent {fault' : Fault} (hd : service.destination request = .error fault') :
    service.Lost request delivery fault ↔ service.Unsendable request fault := by
  constructor
  · intro h
    cases h with
    | unsent hunsendable => exact hunsendable
    | unread haddress =>
      rw [hd] at haddress
      cases haddress
  · exact .unsent

/-- A request that goes somewhere is lost just if what comes back cannot be read. -/
theorem lost_iff_of_sent (hd : service.destination request = .ok address) :
    service.Lost request delivery fault ↔ service.Unreadable delivery fault := by
  constructor
  · intro h
    cases h with
    | unsent hunsendable =>
      rw [(unsendable_iff.1 hunsendable).1] at hd
      cases hd
    | unread haddress hunreadable => exact hunreadable
  · exact .unread hd

/-- A request breaks off with a fault that is not one of the service just if it is lost. -/
theorem lost_iff_post :
    service.Lost request (service.deliveries sent) fault ↔
      (service.post request sent).result = .error fault ∧ Engine.serviceFault fault = none := by
  cases hd : service.destination request with
  | error fault' =>
    have hpost : (service.post request sent).result = .error fault ↔
        service.destination request = .error fault := by
      rw [post, hd, Except.error.injEq]
      exact (Except.error.injEq ..).to_iff
    rw [hpost, lost_iff_of_unsent hd, unsendable_iff]
  | ok address => rw [lost_iff_of_sent hd, result_post_of_sent sent hd, unreadable_iff]

/-- To sum a run up breaks off in the same way as its request does. -/
theorem lost_iff_summarize {script context : Text} :
    service.Lost (.summary script context) (service.deliveries sent) fault ↔
      (service.summarize script context sent).result = .error fault ∧
        Engine.serviceFault fault = none := by
  rw [lost_iff_post]
  cases hpost : (service.post (.summary script context) sent).result with
  | error fault' =>
    have hsummarize : (service.summarize script context sent).result = .error fault' := by
      rw [summarize, Routine.bind_of_error hpost]
    rw [hsummarize, Except.error.injEq, Except.error.injEq]
  | ok text =>
    constructor
    · rintro ⟨h, -⟩
      cases h
    · rintro ⟨h, hstray⟩
      rw [summarize, Routine.bind_of_ok hpost, Outcome.behind] at h
      cases htext : SummaryResponse.ofText service.validator text with
      | valid response =>
        rw [htext] at h
        cases h
      | invalid complaints =>
        rw [htext] at h
        cases h
        cases hstray

end ScreenScript.VisionService
