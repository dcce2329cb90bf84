import Mathlib.Data.List.DropRight
import ScreenScript.Run.Screen

/-!
# Histories

A history tells what happens in a run, moment by moment, and also what no event shows: which descriptions
are given, which screenshots are taken, and which responses the service gives. It determines what the
context of the run is at each moment, and thereby what every request has to say.

* `History.events`, `History.leave` — what a history does outside, and to the context
* `History.Candid` — every request says what the context is when it is made
* `History.seen_leave`, `History.description_leave` — the context, told without running through the history
* `History.Recounts` — a history of what leads from one session to another
-/

namespace ScreenScript

/-- One moment of a run. -/
inductive Moment
  /-- a description is given -/
  | described (text : Text)
  /-- a screenshot is taken -/
  | captured (screenshot : Screenshot)
  /-- a request goes to the vision service at `url` -/
  | requested (url apiKey clientKey : Text) (request : VisionRequest)
  /-- the service has given a response to a request for a step -/
  | answered (response : StepResponse)
  /-- something else happens outside -/
  | happened (event : Event)
  deriving DecidableEq, Repr

namespace StepResponse

/-- What a response adds to what has been seen: its context, if it is accepted and has one. -/
def contribution (response : StepResponse) : List Text :=
  if response.isAccepted && response.context.getD [] ≠ [] then [response.context.getD []] else []

theorem contribution_of_rejected {response : StepResponse} (h : response.isAccepted = false) :
    response.contribution = [] := by
  rw [contribution, h]
  rfl

theorem contribution_of_accepted {response : StepResponse} (h : response.isAccepted = true) :
    response.contribution =
      if response.context.getD [] ≠ [] then [response.context.getD []] else [] := by
  rw [contribution, h]
  simp

end StepResponse

namespace Moment

/-- What happens outside at a moment. -/
def events : Moment → List Event
  | requested url apiKey clientKey request => [.posted url apiKey clientKey request]
  | happened event => [event]
  | _ => []

/-- What a moment leaves of a context. -/
def leave (context : RunContext) : Moment → RunContext
  | described text => context.describe text
  | captured screenshot => { context with factor := screenshot.factor }
  | answered response =>
    { context with previous := response.requestId, seen := context.seen ++ response.contribution }
  | _ => context

/-- A request says what the context is. -/
def Candid (context : RunContext) : Moment → Prop
  | requested _ _ _ (.step request) =>
    request.context = context.joined ∧ request.description = context.description ∧
      request.previous = context.previous
  | requested _ _ _ (.summary _ seen) => seen = context.joined
  | _ => True

/-- The description that is given at a moment. -/
def description? : Moment → Option Text
  | described text => some text
  | _ => none

/-- What is seen at a moment. -/
def contribution : Moment → List Text
  | answered response => response.contribution
  | _ => []

/-- A request to a service, if it is sent. -/
def asked (service : VisionService) (request : VisionRequest) : List Moment :=
  match service.destination request with
  | .ok address => [.requested address service.apiKey service.clientKey request]
  | .error _ => []

end Moment

/-- The moments of a run, in order. -/
abbrev History := List Moment

namespace History

/-! ## Running through a history -/

/-- What happens outside. -/
def events (history : History) : List Event := history.flatMap Moment.events

/-- What a history leaves of a context. -/
def leave (context : RunContext) (history : History) : RunContext := history.foldl Moment.leave context

/-- Every request says what the context is when it is made. -/
def Candid (context : RunContext) : History → Prop
  | [] => True
  | moment :: history => moment.Candid context ∧ Candid (moment.leave context) history

variable {context : RunContext} {history later : History}

@[simp] theorem events_nil : events [] = [] := rfl

@[simp] theorem events_cons (moment : Moment) :
    events (moment :: history) = moment.events ++ history.events :=
  List.flatMap_cons

@[simp] theorem events_append : events (history ++ later) = history.events ++ later.events :=
  List.flatMap_append

@[simp] theorem leave_append : leave context (history ++ later) = leave (leave context history) later :=
  List.foldl_append

theorem candid_append :
    Candid context (history ++ later) ↔ Candid context history ∧ Candid (leave context history) later := by
  induction history generalizing context with
  | nil => exact (true_and _).symm.to_iff
  | cons moment history ih =>
    rw [List.cons_append, Candid, ih, Candid, and_assoc]
    rfl

/-- Where a request stands in a candid history, it says what the moments before it leave of the context. -/
theorem Candid.of_mem {before after : History} {moment : Moment}
    (h : Candid context (before ++ moment :: after)) : moment.Candid (leave context before) :=
  (candid_append.1 h).2.1

/-! ## The context without running through the history -/

/-- The description that was given last. -/
def lastDescription? (history : History) : Option Text := (history.filterMap Moment.description?).getLast?

/-- The moments behind the last description. -/
def sinceDescription (history : History) : History :=
  history.rtakeWhile fun moment => moment.description?.isNone

/-- What was seen: the last description, or else what there was at first, and what the responses behind it
have added. -/
def seen (first : List Text) (history : History) : List Text :=
  (match history.lastDescription? with
    | some text => [text]
    | none => first) ++ history.sinceDescription.flatMap Moment.contribution

/-- The last description, or else what there was at first. -/
def description (first : Text) (history : History) : Text := history.lastDescription?.getD first

theorem lastDescription?_concat (history : History) (moment : Moment) :
    lastDescription? (history ++ [moment]) = moment.description?.or history.lastDescription? := by
  rw [lastDescription?, List.filterMap_append, List.getLast?_append]
  cases hm : moment.description? with
  | none => simp [hm, lastDescription?]
  | some text => simp [hm]

theorem sinceDescription_concat (history : History) (moment : Moment) :
    sinceDescription (history ++ [moment]) =
      if moment.description?.isNone then history.sinceDescription ++ [moment] else [] :=
  List.rtakeWhile_concat ..

/-- What a moment without a description adds to what was seen. -/
theorem seen_concat {first : List Text} {moment : Moment} (h : moment.description? = none) :
    seen first (history ++ [moment]) = history.seen first ++ moment.contribution := by
  rw [seen, lastDescription?_concat, sinceDescription_concat, h, Option.none_or]
  simp [seen]

/-- What a history leaves of what was seen. -/
theorem seen_leave (context : RunContext) (history : History) :
    (leave context history).seen = history.seen context.seen := by
  -- from the end of the history, since its last moment may undo whatever was seen before
  induction history using List.reverseRecOn with
  | nil => simp [leave, seen, lastDescription?, sinceDescription]
  | append_singleton history moment ih =>
    rw [leave_append]
    cases moment with
    | described text =>
      rw [seen, lastDescription?_concat, sinceDescription_concat]
      rfl
    | answered response =>
      rw [seen_concat rfl, ← ih]
      rfl
    | _ =>
      rw [seen_concat rfl, ← ih]
      exact (List.append_nil _).symm

/-- What a history leaves of the description. -/
theorem description_leave (context : RunContext) (history : History) :
    (leave context history).description = history.description context.description := by
  induction history using List.reverseRecOn with
  | nil => rfl
  | append_singleton history moment ih =>
    rw [leave_append, description, lastDescription?_concat]
    cases moment with
    | described text => rfl
    | _ => exact ih

/-! ## From one session to another -/

/-- The history tells what leads from one session to another: it leaves the context of the latter, and its
requests say what the context is. -/
structure Recounts {δ : Type} (history : History) (s s' : Session δ) : Prop where
  context : s'.context = leave s.context history
  candid : Candid s.context history

/-- Moments without a name. -/
def ofEvents (happened : List Event) : History := happened.map .happened

@[simp] theorem events_ofEvents (happened : List Event) : events (ofEvents happened) = happened := by
  rw [events, ofEvents, List.flatMap_map]
  exact List.flatMap_singleton' happened

@[simp] theorem leave_ofEvents (context : RunContext) (happened : List Event) :
    leave context (ofEvents happened) = context := by
  induction happened with
  | nil => rfl
  | cons event rest ih => exact ih

theorem candid_ofEvents (context : RunContext) (happened : List Event) :
    Candid context (ofEvents happened) := by
  induction happened with
  | nil => exact trivial
  | cons event rest ih => exact ⟨trivial, ih⟩

variable {δ : Type} {s s₁ s' : Session δ}

/-- What leaves the context alone is recounted by its events. -/
theorem recounts_ofEvents {happened : List Event} (h : s'.context = s.context) :
    (ofEvents happened).Recounts s s' :=
  ⟨by rw [h, leave_ofEvents], candid_ofEvents s.context happened⟩

/-- A single moment recounts what it leaves of the context. -/
theorem recounts_moment {moment : Moment} (h : s'.context = moment.leave s.context)
    (hcandid : moment.Candid s.context) : Recounts [moment] s s' :=
  ⟨h, hcandid, trivial⟩

/-- A request recounts what it leaves of the context, whether it is sent or not. -/
theorem recounts_asked {service : VisionService} {request : VisionRequest} (h : s'.context = s.context)
    (hcandid : ∀ url apiKey clientKey,
      (Moment.requested url apiKey clientKey request).Candid s.context) :
    Recounts (Moment.asked service request) s s' := by
  rw [Moment.asked]
  split
  · exact recounts_moment h (hcandid _ _ _)
  · exact ⟨h, trivial⟩

theorem recounts_nil (h : s'.context = s.context) : Recounts [] s s' := ⟨h, trivial⟩

theorem Recounts.append (h : history.Recounts s s₁) (h' : later.Recounts s₁ s') :
    Recounts (history ++ later) s s' := by
  refine ⟨?_, candid_append.2 ⟨h.candid, ?_⟩⟩
  · rw [leave_append, ← h.context]
    exact h'.context
  · rw [← h.context]
    exact h'.candid

end History

end ScreenScript
