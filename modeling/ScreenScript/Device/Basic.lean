import ScreenScript.Disk.Access

/-!
# Devices

A device is known by what it can be asked to do. Everything but a screenshot answers whether it went
well. A device acts on a site: the files, and a state of its own.
-/

namespace ScreenScript

/-- Where a device acts. -/
structure Site (δ : Type) where
  /-- the files and folders -/
  disk : Disk
  /-- the state of the device -/
  device : δ

namespace Site

variable {δ α : Type}

/-- A routine on the files of a site. -/
def onDisk (m : Routine Disk α) : Routine (Site δ) α :=
  m.within Site.disk fun site disk => { site with disk }

/-- A routine on the device of a site. -/
def onDevice (m : Routine δ α) : Routine (Site δ) α :=
  m.within Site.device fun site device => { site with device }

end Site

/-- A picture of the screen: a file, and the factor by which it was scaled. -/
structure Screenshot where
  /-- the file -/
  path : Path
  /-- the length of the shorter side of the picture, relative to the screen -/
  factor : Scalar
  deriving DecidableEq, Repr, Inhabited

/-- What a device can be asked to do. -/
structure Device (δ : Type) where
  /-- is the device there? -/
  isConnected : Routine (Site δ) Bool
  /-- install the app of the workspace -/
  install : Routine (Site δ) Bool
  /-- remove an app -/
  uninstall : Text → Routine (Site δ) Bool
  /-- clear the data of an app -/
  clearData : Text → Routine (Site δ) Bool
  /-- start an app -/
  openApp : Text → Routine (Site δ) Bool
  /-- tap a point -/
  tap : Int → Int → Routine (Site δ) Bool
  /-- swipe from one point to another -/
  swipe : Int → Int → Int → Int → Routine (Site δ) Bool
  /-- type a text, one character after the other -/
  type : Text → Routine (Site δ) Bool
  /-- press the back key -/
  back : Routine (Site δ) Bool
  /-- press the home key -/
  home : Routine (Site δ) Bool
  /-- show the recent apps -/
  recent : Routine (Site δ) Bool
  /-- take a picture of the screen for a step -/
  screenshot : Step → Routine (Site δ) (Option Screenshot)

end ScreenScript
