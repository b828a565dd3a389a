import CallCapture.Phase
import CallCapture.Preferences

namespace CallCapture

/-- The live capture switches. `skipped` holds the units that opted
out, each once; whether a unit that is not among them was ever
mentioned cannot be told. -/
structure Flags where
  forceRun : Bool := false
  verbose : Bool := false
  skipped : List String := []
  deriving DecidableEq, Inhabited

namespace Flags

/-- The unit has opted out of captures. Units that were never mentioned have
not. The answer to one unit says nothing about any other. -/
def skipCapture (flags : Flags) (unit : String) : Bool := flags.skipped.contains unit

/-- Workloads run outside the build phase too. Flags that are only verbose
force them as well. -/
def forced (flags : Flags) : Bool := flags.forceRun || flags.verbose

/-- Whether the workloads of a unit run in a phase. Forcing overrides the
phase but never an opt-out. -/
def shouldRun (flags : Flags) (unit : String) (phase : Phase) : Bool :=
  !flags.skipCapture unit && (phase == .building || flags.forced)

/-- Takes over every value of `preferences`; of the units only those that opt
out. What the flags held before has no part in it. -/
def ofPreferences (preferences : Preferences) : Flags where
  forceRun := preferences.forceRun
  verbose := preferences.verbose
  skipped := (preferences.units.filter Prod.snd).map Prod.fst

/-- Makes a unit opt out or not, and leaves all other units and both
switches as they are. -/
def setSkipCapture (flags : Flags) (unit : String) (skip : Bool) : Flags :=
  let others := flags.skipped.filter (· != unit)
  { flags with skipped := if skip then others ++ [unit] else others }

/-- An edit decides for its own unit alone. With this, flags can be compared
by what they answer instead of by the order of their units. -/
theorem skipCapture_setSkipCapture (flags : Flags) (unit other : String) (skip : Bool) :
    (flags.setSkipCapture unit skip).skipCapture other =
      if other = unit then skip else flags.skipCapture other := by
  rw [Bool.eq_iff_iff]
  cases skip <;> by_cases h : other = unit <;> simp [skipCapture, setSkipCapture, h]

/-- Equality of switches: the opted-out units as a set, in whatever order
they have come in. -/
def same (a b : Flags) : Bool :=
  a.forceRun == b.forceRun && a.verbose == b.verbose &&
    a.skipped.all b.skipCapture && b.skipped.all a.skipCapture

end Flags

end CallCapture
