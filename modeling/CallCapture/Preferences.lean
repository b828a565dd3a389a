import CallCapture.Entries
import CallCapture.Text.Blank

namespace CallCapture

/-- Two switches and the units that were given a setting of their own. `units`
holds a unit at most once, with whether its capture is skipped. -/
structure Preferences where
  forceRun : Bool := false
  verbose : Bool := false
  units : List (String × Bool) := []
  deriving DecidableEq, Inhabited

namespace Preferences

/-- Whether the capture of a unit is to be skipped. Units without a
setting are captured. -/
def skipCapture (preferences : Preferences) (unit : String) : Bool :=
  (preferences.units.lookup unit).getD false

/-- Gives a unit a setting. A unit that has one already keeps its place
among the others. -/
def setSkipCapture (preferences : Preferences) (unit : String) (skip : Bool) : Preferences :=
  { preferences with units := putEntry preferences.units unit skip }

/-- A setting decides for its own unit alone, as an edit of live flags
does. -/
theorem skipCapture_setSkipCapture (preferences : Preferences) (unit other : String) (skip : Bool) :
    (preferences.setSkipCapture unit skip).skipCapture other =
      if other = unit then skip else preferences.skipCapture other := by
  simp only [skipCapture, setSkipCapture, lookup_putEntry]
  split <;> rfl

end Preferences

/-- What can be wrong with the name of a unit. Everything else is allowed in a
name, whatever a document has to do to keep it. -/
inductive NameFault where
  | empty
  | surroundingBlanks (name : String)
  deriving DecidableEq, Inhabited

/-- The fault of one name, if it has any: it is empty, or it has blanks at
an end. A name of nothing but blanks has them at both. -/
def nameFault? (name : String) : Option NameFault :=
  if name = "" then some .empty
  else if IsTrimmed name.toList then none
  else some (.surroundingBlanks name)

/-- The first unit whose name is empty or has blanks at an end. Preferences
with such a unit are neither saved nor loaded. -/
def Preferences.nameFault? (preferences : Preferences) : Option NameFault :=
  preferences.units.findSome? fun unit => CallCapture.nameFault? unit.1

/-- Verbose preferences force workloads to run although `forceRun` is off.
This is worth a line in the log. -/
def Preferences.forcesSilently (preferences : Preferences) : Bool :=
  preferences.verbose && !preferences.forceRun

end CallCapture
