import CallCapture.Session.World

namespace CallCapture

namespace Act

/-- Opens a level on a host for `thread`. If another thread holds the host,
that is noted and is an error, and the host stays as it is. The error names
the unit that was refused, and the note tells which host it was. -/
def beginLevel (id : HostId) (unit : String) (verbose : Bool) (thread : ThreadId) : Act Nesting := do
  match (← host id).beginCapture? thread verbose with
  | none =>
    note (.refused id unit)
    fail (.reentrancy unit)
  | some (nesting, changed) =>
    setHost id changed
    match nesting with
    | .outermost => note (.armed id unit)
    | .nested depth => note (.nested id unit depth)
    return nesting

/-- Closes a level on a host, whoever opened it, and says what that came to.
To close one too many is noted and is no error. Only the number of recorded
signatures is noted; the set itself goes to whoever has asked. -/
def endLevel (id : HostId) : Act Ending := do
  let (ending, changed) := (← host id).endCapture
  setHost id changed
  match ending with
  | .unarmed => note (.endedUnarmed id)
  | .nested => note (.levelEnded id)
  | .outermost recorded => note (.disarmed id recorded.size)
  return ending

/-- Forces a host to compile; returns the mode to put back. The
mode that comes back may be the forced one already, if the host has
been locked before. -/
def lock (id : HostId) : Act CompileMode := do
  let (previous, changed) := (← host id).lock
  setHost id changed
  note (.locked id previous)
  return previous

/-- Puts a mode back, whatever the mode is now. Nothing checks that it is the
one to be put back next. -/
def unlock (id : HostId) (previous : CompileMode) : Act Unit := do
  setHost id ((← host id).setMode previous)
  note (.released id previous)

/-- Brings a call that was resolved in compiled code to the listener of its
host. A call in interpreted code is resolved as well, and nobody hears of it.
The call is noted with the mode of the caller in either case, so that a run
can be judged by it. -/
def publish (id : HostId) (signature : Signature) : Act Unit := do
  let caller ← host id
  note (.invoked id caller.mode signature)
  if caller.isCompiled then
    match caller.listener with
    | none => return
    | some listener =>
      note (.delivered id signature)
      match listener with
      | .recorder =>
        setHost id (caller.hear signature)
        if caller.reports signature then note (.captured id signature)
      | .collector collector =>
        modify fun world =>
          { world with collectors := world.collectors.put collector (world.collectors.get collector ++ [signature]) }

/-- Hands a set over to a sink, for a capture of the given host or by hand.
What the sink does to the files stays also when it refuses the set; the sink
itself changes only when it takes it. That it has been called is noted first,
before it is known what it answers. -/
def handOver (source : Option HostId) (id : SinkId) (emission : Emission) : Act Unit := do
  note (.handedOver source id emission.artifact emission.signatures)
  let before ← sink id
  let (result, files) := before.emit (← get).files emission
  modify fun world => { world with files := files }
  let (growth, after) ← orFail result
  setSink id after
  match growth with
  | none => return
  | some growth =>
    match after with
    | .emitter { directory := some directory, .. } => note (.manifestWritten directory emission.artifact)
    | _ => pure ()
    note (.emitted emission.artifact growth.added growth.total)

/-- Asks an oracle for the phase. Each question to a sequence takes one
answer, and the last answer is given for good. A sequence without any answers
is read as an empty name, which is no phase. -/
def phase (oracle : Oracle) : Act (Except Error Phase) := do
  match oracle with
  | .fixed phase => return .ok phase
  | .environment name => return (← get).environment.phase name
  | .sequence id answers =>
    let asked := (← get).asked.get id
    modify fun world => { world with asked := world.asked.put id (asked + 1) }
    return Phase.parse ((answers[asked]?.or answers.getLast?).getD "")

end Act

/-- What a finished capture comes to: whose it was, and how many signatures it
has handed over. A capture that was not the outermost one has none. -/
structure Report where
  unit : String
  artifact : String
  size : Nat
  deriving DecidableEq, Inhabited

namespace Precompiler

/-- Asks for the phase and looks at the flags, once each. An open gate
passes on the flags it saw, so that later edits of the flags make no
difference to the capture behind it. An oracle at fault closes the gate, and
the fault is only noted. -/
def gate (precompiler : Precompiler) : Act (Option Flags) := do
  Act.note (.phaseAsked precompiler.unit)
  match ← Act.phase precompiler.oracle with
  | .error error =>
    Act.note (.gateFailed precompiler.unit error)
    return none
  | .ok phase =>
    let flags ← Act.flags precompiler.flags
    if flags.shouldRun precompiler.unit phase then return some flags
    else
      Act.note (.gateClosed precompiler.unit phase)
      return none

/-- Opens a capture if the gate is open. The host is claimed before it is made
to compile, so a refused capture changes neither. The guard that comes back is
all that is needed to end the capture later, by whichever thread. -/
def beginCapture (precompiler : Precompiler) (thread : ThreadId) : Act (Option Guard) := do
  match ← precompiler.gate with
  | none => return none
  | some flags =>
    let nesting ← Act.beginLevel precompiler.monitor precompiler.unit flags.verbose thread
    let previous ← Act.lock precompiler.engine
    return some ⟨precompiler, previous, nesting⟩

/-- Hands the set of a finished capture to the sink of the unit, under the
artifact of the unit. Empty sets are handed over too. How many signatures
there are is noted before the sink is called. -/
def emit (precompiler : Precompiler) (signatures : List Signature) : Act Unit := do
  Act.note (.emitting precompiler.unit precompiler.artifact signatures.length)
  Act.handOver precompiler.monitor precompiler.sink ⟨precompiler.artifact, signatures⟩

end Precompiler

namespace Guard

/-- Closes the capture's level and puts the mode back; whoever closes the last
level hands over what was recorded. The two come in the order in which they
were taken, not in reverse. An error of the sink comes out when level and mode
are in order again. -/
def disarm (guard : Guard) : Act (Option Report) := do
  let ending ← Act.endLevel guard.precompiler.monitor
  Act.unlock guard.precompiler.engine guard.previous
  match ending with
  | .outermost recorded =>
    guard.precompiler.emit recorded.signatures
    let report : Report :=
      ⟨guard.precompiler.unit, guard.precompiler.artifact, recorded.signatures.length⟩
    Act.note (.reported report.unit report.size)
    return some report
  | _ => return none

/-- Disarms a capture that was not finished; an error is only noted. A panic
would go on, but no sink panics. What it would have reported is lost. -/
def drop (guard : Guard) : Act Unit := do
  match ← Act.attempt guard.disarm with
  | .error (.error error) => Act.note (.emissionFailedInDrop guard.precompiler.unit error)
  | .error halt => throw halt
  | .ok _ => return

end Guard

end CallCapture
