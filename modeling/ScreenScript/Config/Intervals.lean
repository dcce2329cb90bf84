import ScreenScript.Json.Field

/-!
# Intervals

How long a run waits after what it does, how screenshots are prepared, and how often a repeating step
is processed at most. Delays are milliseconds.
-/

namespace ScreenScript

open Json

/-- The intervals of a run. -/
structure Intervals where
  /-- after starting or installing an app -/
  longDelay : Int := 3000
  /-- after every action and every task -/
  actionDelay : Int := 1000
  /-- after pressing the home key, and after removing an app or its data -/
  shortDelay : Int := 500
  /-- after every typed character -/
  typingDelay : Int := 100
  /-- whether the status bar is covered in screenshots -/
  coversStatusBar : Bool := true
  /-- the share of the height that the status bar has -/
  statusBarShare : Binary64 := .ofDecimal false 4 (-2)
  /-- the length of the shorter side of a scaled screenshot -/
  normalizedWidth : Int := 768
  /-- how often a repeating step is processed at most -/
  maxRepeats : Int := 10
  deriving DecidableEq, Repr, Inhabited

namespace Intervals

/-- The intervals whose members these are, where `checkPortion` tells what a share may be. -/
def ofMembersWith (checkPortion : Json → Checked Binary64) (members : List (Text × Json)) :
    Checked Intervals :=
  let default : Intervals := {}
  Intervals.mk
    <$> field members ["long_delay".toList] default.longDelay (checkIntFrom 0)
    <*> field members ["default_action_delay".toList] default.actionDelay (checkIntFrom 0)
    <*> field members ["short_delay".toList] default.shortDelay (checkIntFrom 0)
    <*> field members ["typing_delay".toList] default.typingDelay (checkIntFrom 0)
    <*> field members ["cover_status_bar".toList] default.coversStatusBar checkFlag
    <*> field members ["cover_status_bar_percentage".toList] default.statusBarShare checkPortion
    <*> field members ["normalized_width".toList] default.normalizedWidth (checkIntAbove 0)
    <*> field members ["max_repeats".toList] default.maxRepeats (checkIntAbove 0)

/-- The intervals whose members were read from a file. -/
def ofMembers (members : List (Text × Json)) : Checked Intervals := ofMembersWith checkShare members

/-- Expects a number from zero to one that was not read from a file: an integer that is too large for a
floating-point number is none. -/
def checkGivenShare (value : Json) : Checked Binary64 :=
  match value with
  | .int n => if (Binary64.ofInt? n).isNone then Checked.fail .notReal else checkShare value
  | value => checkShare value

/-- The intervals whose members were given directly. -/
def ofGiven (members : List (Text × Json)) : Checked Intervals := ofMembersWith checkGivenShare members

/-- The intervals that a text stands for. -/
def ofText (t : Text) : Checked Intervals := checkObject ofMembers t

/-- The members of intervals. -/
def toMembers (intervals : Intervals) : List (Text × Json) :=
  [("long_delay".toList, .int intervals.longDelay),
    ("default_action_delay".toList, .int intervals.actionDelay),
    ("short_delay".toList, .int intervals.shortDelay),
    ("typing_delay".toList, .int intervals.typingDelay),
    ("cover_status_bar".toList, .bool intervals.coversStatusBar),
    ("cover_status_bar_percentage".toList, .real intervals.statusBarShare),
    ("normalized_width".toList, .int intervals.normalizedWidth),
    ("max_repeats".toList, .int intervals.maxRepeats)]

end Intervals

end ScreenScript
