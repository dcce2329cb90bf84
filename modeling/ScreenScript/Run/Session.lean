import ScreenScript.Device.Basic
import ScreenScript.Run.Context
import ScreenScript.Vision.Service
import ScreenScript.Config.Intervals

/-!
# Sessions

What a run acts on: the site of the device, the number of requests sent to the vision service, and the
context. The parts are kept apart, so a routine on one of them leaves the others alone.
-/

namespace ScreenScript

/-- What a run acts on. -/
structure Session (δ : Type) where
  /-- the files and the device -/
  site : Site δ
  /-- the number of requests sent to the vision service -/
  sent : Nat := 0
  /-- the context of the run -/
  context : RunContext := {}

namespace Session

variable {δ α : Type}

/-- A routine on the site. -/
def onSite (m : Routine (Site δ) α) : Routine (Session δ) α :=
  m.within Session.site fun session site => { session with site }

/-- A routine on the files. -/
def onDisk (m : Routine Disk α) : Routine (Session δ) α := onSite (Site.onDisk m)

/-- A routine on the vision service. -/
def onService (m : Routine Nat α) : Routine (Session δ) α :=
  m.within Session.sent fun session sent => { session with sent }

/-- The context. -/
def getContext : Routine (Session δ) RunContext := do return (← Routine.get).context

/-- A change of the context. -/
def changeContext (f : RunContext → RunContext) : Routine (Session δ) Unit :=
  Routine.modify fun session => { session with context := f session.context }

end Session

/-- What carries out a script. -/
structure Engine (δ : Type) where
  /-- the device -/
  device : Device δ
  /-- the vision service -/
  service : VisionService
  /-- the intervals -/
  intervals : Intervals

end ScreenScript
