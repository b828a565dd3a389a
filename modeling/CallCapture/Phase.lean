import CallCapture.Text.Blank
import CallCapture.Files

namespace CallCapture

/-- Whether the process produces compiled artifacts or runs normally.
Workloads run while it builds; outside of that they have to be forced. -/
inductive Phase where
  | building
  | running
  deriving DecidableEq, Inhabited

namespace Phase

/-- The name of a phase as logs show it. It is also one of the two names that
are read as this phase. -/
def display : Phase → String
  | building => "building"
  | running => "running"

/-- A raw phase name without its outer blanks, its ASCII letters in lower
case. Only these make no difference between names. -/
def normalName (raw : String) : String :=
  String.ofList ((trimBlanks raw.toList).map Char.toLower)

/-- The phase that a raw name stands for; each phase has a long
name and a short one. The error shows the name as it was compared,
not as it was written. -/
def parse (raw : String) : Except Error Phase :=
  let name := normalName raw
  if name = "building" ∨ name = "build" then .ok building
  else if name = "running" ∨ name = "run" then .ok running
  else .error (.unrecognizedPhase name)

/-- What is shown of a phase is read as this phase. -/
theorem parse_display (phase : Phase) : parse phase.display = .ok phase := by
  cases phase <;> rfl

end Phase

/-- The environment variable that names the phase unless another is given. -/
def defaultPhaseVariable : String := "PRECACHE_PHASE"

/-- The phase that an environment variable names. A variable that is not set,
or is set to something other than text, is an error of its own. -/
def Environment.phase (environment : Environment) (name : String) : Except Error Phase :=
  match environment.text? name with
  | some raw => Phase.parse raw
  | none => .error (.phaseNotSet name)

end CallCapture
