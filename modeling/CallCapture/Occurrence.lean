import CallCapture.Error
import CallCapture.Files
import CallCapture.Host
import CallCapture.Manifest
import CallCapture.Phase

namespace CallCapture

/-- Hosts of a session are told apart by numbers. A name may stand for another
host later on, and two names for the same. -/
structure HostId where
  number : Nat
  deriving DecidableEq, Inhabited

/-- Sinks of a session are told apart by numbers, as hosts are. Two sinks with
the same content are still two. -/
structure SinkId where
  number : Nat
  deriving DecidableEq, Inhabited

/-- A capture or a lockout that is kept under a name until it is closed by
hand: the host whose level it holds, if it holds one, the host that it makes
compile, and the mode that it puts back. -/
structure Holding where
  name : String
  monitor : Option HostId
  engine : HostId
  previous : CompileMode
  deriving DecidableEq, Inhabited

/-- What happens in a session, one thing after the other. Some
occurrences have a line in the log; the others are there so that a run
can be judged by them. -/
inductive Occurrence where
  /-- A call was resolved, with its host in the given mode. -/
  | invoked (host : HostId) (mode : CompileMode) (signature : Signature)
  /-- A resolved call was brought to the listener of its host. -/
  | delivered (host : HostId) (signature : Signature)
  /-- The recorder of a verbose capture met a new signature. -/
  | captured (host : HostId) (signature : Signature)
  | entered (host : HostId)
  | left (host : HostId)
  | modeSet (host : HostId) (mode : CompileMode)
  | hookInstalled (host : HostId)
  | hookRemoved (host : HostId)
  | armed (host : HostId) (unit : String)
  | nested (host : HostId) (unit : String) (depth : Nat)
  | refused (host : HostId) (unit : String)
  | levelEnded (host : HostId)
  | disarmed (host : HostId) (size : Nat)
  | endedUnarmed (host : HostId)
  | locked (host : HostId) (previous : CompileMode)
  | released (host : HostId) (restored : CompileMode)
  /-- A level of a host is opened or closed by hand, outside any capture. -/
  | monitorUsed (host : HostId)
  | held (holding : Holding)
  /-- What was held is closed next. -/
  | letGo (holding : Holding)
  /-- A gate asked for the phase. -/
  | phaseAsked (unit : String)
  | gateFailed (unit : String) (error : Error)
  | gateClosed (unit : String) (phase : Phase)
  /-- A precompiler is about to hand a set over. -/
  | emitting (unit artifact : String) (size : Nat)
  /-- A sink was called, by a capture of the given host or by hand. -/
  | handedOver (source : Option HostId) (sink : SinkId) (artifact : String) (signatures : List Signature)
  | manifestWritten (directory : Path) (artifact : String)
  | emitted (artifact : String) (added total : Nat)
  | reported (unit : String) (size : Nat)
  | workloadFailed (unit : String)
  | emissionFailedToo (unit : String) (error : Error)
  | emissionFailedInDrop (unit : String) (error : Error)
  | preferencesMissing (path : String)
  | verboseForces
  deriving DecidableEq, Inhabited

/-- How much a line of the log matters, from errors down to what is only
there for tracing. -/
inductive Level where
  | error
  | warn
  | info
  | debug
  | trace
  deriving DecidableEq, Inhabited

namespace Level

/-- The name of a level in front of its lines. It stands in capitals, however
the log is filtered. -/
def display : Level → String
  | error => "ERROR"
  | warn => "WARN"
  | info => "INFO"
  | debug => "DEBUG"
  | trace => "TRACE"

/-- The place of a level among all of them. A log that shows one level shows
those of lower rank too. -/
def rank : Level → Nat
  | error => 0
  | warn => 1
  | info => 2
  | debug => 3
  | trace => 4

end Level

/-- Paths in the log start at a top directory whose name is left out, since
sessions run in directories of their own. -/
def shownTop : String := "<dir>"

/-- The name `name` inside the directory `base`, unless it starts from the
root. A slash that `base` ends with is not doubled. -/
def joinPath (base name : String) : String :=
  if Files.isAbsolute name then name
  else if base.endsWith "/" then base ++ name
  else base ++ "/" ++ name

namespace Occurrence

/-- The log line of an occurrence; some have none. Threads and elapsed times
are left blank, since they differ from run to run. -/
def line? : Occurrence → Option (Level × String)
  | delivered _ signature => some (.trace, "Dispatch resolved: " ++ signature.display)
  | captured _ signature => some (.info, "Captured " ++ signature.display)
  | armed _ unit => some (.debug, "Dispatch monitor armed for unit " ++ unit)
  | nested _ unit depth =>
    some (.debug, "Nested capture for unit " ++ unit ++ " at depth " ++ toString depth)
  | refused _ unit =>
    some (.error, "Capture for unit " ++ unit ++ " attempted while thread ThreadId(_) holds the monitor")
  | disarmed _ size => some (.debug, "Dispatch monitor disarmed with " ++ toString size ++ " signatures")
  | endedUnarmed _ => some (.warn, "Dispatch monitor ended while not armed")
  | locked _ previous => some (.debug, "Interpreter lockout enabled (was " ++ previous.display ++ ")")
  | released _ restored => some (.debug, "Interpreter lockout released, restored " ++ restored.display)
  | gateFailed unit error => some (.warn, error.text ++ "; not running workloads for unit " ++ unit)
  | gateClosed unit phase =>
    some (.debug, "Workloads for unit " ++ unit ++ " gated off in " ++ phase.display ++ " phase")
  | emitting unit artifact size =>
    some (.debug, "Emitting " ++ toString size ++ " signatures for unit " ++ unit ++ " to artifact " ++ artifact)
  | manifestWritten directory artifact =>
    some (.debug, "Wrote manifest " ++ (directory ++ [manifestFileName artifact]).foldl joinPath shownTop)
  | emitted artifact added total =>
    some (.info, "Emitted " ++ toString added ++ " new directives for artifact " ++ artifact ++ " (" ++
      toString total ++ " total)")
  | reported unit size =>
    some (.debug, "Captured " ++ toString size ++ " signatures for unit " ++ unit ++ " in _")
  | workloadFailed unit =>
    some (.warn, "Workload for unit " ++ unit ++ " failed; partial capture was emitted")
  | emissionFailedToo unit error =>
    some (.error, "Emission for unit " ++ unit ++ " failed after workload failure: " ++ error.text)
  | emissionFailedInDrop unit error =>
    some (.error, "Emission for unit " ++ unit ++ " failed while unwinding: " ++ error.text)
  | preferencesMissing path =>
    some (.debug, "No preference file at " ++ path ++ ", using defaults")
  | verboseForces => some (.debug, "verbose set without force_run; workloads will still be forced")
  | invoked .. | entered _ | left _ | modeSet .. | hookInstalled _ | hookRemoved _ | levelEnded _
  | monitorUsed _ | held _ | letGo _ | phaseAsked _ | handedOver .. => none

end Occurrence

/-- The lines of a log that shows everything down to `level`, in the order
of what happened. -/
def logLines (level : Level) (occurrences : List Occurrence) : List (Level × String) :=
  (occurrences.filterMap Occurrence.line?).filter fun line => line.1.rank ≤ level.rank

end CallCapture
