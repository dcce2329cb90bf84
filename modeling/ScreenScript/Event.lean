import ScreenScript.Vision.Request

/-!
# Events

What a run does to the world outside, in the order in which it happens: waiting, commands of the bridge
to the device, requests to the vision service, and calls of a device that is not behind the bridge.
-/

namespace ScreenScript

/-- A call of a device. -/
inductive DeviceCall
  /-- is a device there? -/
  | connected
  /-- install the app -/
  | install
  /-- remove an app -/
  | uninstall (package : Text)
  /-- clear the data of an app -/
  | clearData (package : Text)
  /-- start an app -/
  | openApp (package : Text)
  /-- tap a point -/
  | tap (x y : Int)
  /-- swipe from one point to another -/
  | swipe (x₁ y₁ x₂ y₂ : Int)
  /-- type a text -/
  | type (text : Text)
  /-- press the home key -/
  | home
  /-- press the back key -/
  | back
  /-- show the recent apps -/
  | recent
  /-- take a picture of the screen for the step of this name -/
  | screenshot (name : Text)
  deriving DecidableEq, Repr, Inhabited

/-- Something that happens outside. -/
inductive Event
  /-- some milliseconds pass -/
  | slept (milliseconds : Scalar)
  /-- the bridge runs with these words, the first of which is the program -/
  | ran (command : List Text)
  /-- the bridge has not answered in time and is stopped -/
  | stopped
  /-- a request goes to the vision service at `url` -/
  | posted (url apiKey clientKey : Text) (request : VisionRequest)
  /-- a device that is not behind the bridge is called -/
  | called (call : DeviceCall)
  deriving DecidableEq, Repr, Inhabited

/-- How much a message matters. -/
inductive Level
  /-- every detail -/
  | trace
  /-- everything that could be of interest -/
  | debug
  /-- progress -/
  | info
  /-- something went well -/
  | success
  /-- something went wrong that the run survives -/
  | warning
  /-- something failed -/
  | error
  /-- nothing works any more -/
  | critical
  deriving DecidableEq, Repr, Inhabited

namespace Level

/-- All levels, the least one first. -/
def all : List Level := [trace, debug, info, success, warning, error, critical]

/-- The weight of a level; messages are kept from a weight on. -/
def weight : Level → Nat
  | trace => 5
  | debug => 10
  | info => 20
  | success => 25
  | warning => 30
  | error => 40
  | critical => 50

/-- The name of a level. -/
def name : Level → Text
  | trace => "TRACE".toList
  | debug => "DEBUG".toList
  | info => "INFO".toList
  | success => "SUCCESS".toList
  | warning => "WARNING".toList
  | error => "ERROR".toList
  | critical => "CRITICAL".toList

/-- The level with a name. -/
def ofName? (t : Text) : Option Level := all.find? fun level => level.name = t

end Level

/-- A message. -/
structure Entry where
  /-- how much it matters -/
  level : Level
  /-- the message itself -/
  message : Text
  deriving DecidableEq, Repr, Inhabited

end ScreenScript
