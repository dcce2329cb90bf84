import ScreenScript.Json.Validation

/-!
# Responses of the vision service

What the service answers, as values. All members of a response are optional; unknown ones are passed
over. Five members have a second spelling, which counts only where the first one is absent.
-/

namespace ScreenScript

/-- The response to a request for a step. -/
structure StepResponse where
  /-- how it went -/
  status : Option Text := none
  /-- what is not true on the screen although it has to be -/
  failedAssertions : Option (List Text) := none
  /-- what is true on the screen as it has to be -/
  passedAssertions : Option (List Text) := none
  /-- the width of the picture -/
  imageWidth : Option Int := none
  /-- the height of the picture -/
  imageHeight : Option Int := none
  /-- what is to be done -/
  actions : Option (List Text) := none
  /-- what has been seen -/
  context : Option Text := none
  /-- the identity of the response -/
  requestId : Option Text := none
  deriving DecidableEq, Repr, Inhabited

namespace StepResponse

/-- The member for how it went. -/
def statusMember : Member := ⟨["status".toList], .text⟩

/-- The member for what failed. -/
def failedMember : Member := ⟨["failed_assertions".toList, "failedAssertions".toList], .texts⟩

/-- The member for what passed. -/
def passedMember : Member := ⟨["passed_assertions".toList, "passedAssertions".toList], .texts⟩

/-- The member for the width. -/
def widthMember : Member := ⟨["image_width".toList, "imageWidth".toList], .integer⟩

/-- The member for the height. -/
def heightMember : Member := ⟨["image_height".toList, "imageHeight".toList], .integer⟩

/-- The member for the actions. -/
def actionsMember : Member := ⟨["actions".toList], .texts⟩

/-- The member for what has been seen. -/
def contextMember : Member := ⟨["context".toList], .text⟩

/-- The member for the identity. -/
def idMember : Member := ⟨["request_id".toList, "requestId".toList], .text⟩

/-- The members of a response. -/
def members : List Member :=
  [statusMember, failedMember, passedMember, widthMember, heightMember, actionsMember, contextMember, idMember]

/-- The response with these values. -/
def ofRecord (values : Record) : StepResponse where
  status := values statusMember
  failedAssertions := values failedMember
  passedAssertions := values passedMember
  imageWidth := values widthMember
  imageHeight := values heightMember
  actions := values actionsMember
  context := values contextMember
  requestId := values idMember

/-- The response that a text stands for. -/
def ofText (validator : Validator) (t : Text) : Checked StepResponse :=
  ofRecord <$> validator.validate members t

end StepResponse

/-- The response to a request for a summary. -/
structure SummaryResponse where
  /-- how the run went -/
  status : Option Text := none
  /-- the run in words -/
  summary : Option Text := none
  deriving DecidableEq, Repr, Inhabited

namespace SummaryResponse

/-- The member for how the run went. -/
def statusMember : Member := ⟨["status".toList], .text⟩

/-- The member for the run in words. -/
def summaryMember : Member := ⟨["summary".toList], .text⟩

/-- The members of a response. -/
def members : List Member := [statusMember, summaryMember]

/-- The response with these values. -/
def ofRecord (values : Record) : SummaryResponse where
  status := values statusMember
  summary := values summaryMember

/-- The response that a text stands for. -/
def ofText (validator : Validator) (t : Text) : Checked SummaryResponse :=
  ofRecord <$> validator.validate members t

end SummaryResponse

end ScreenScript
