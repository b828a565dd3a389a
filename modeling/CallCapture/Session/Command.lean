import CallCapture.Preferences.Store
import CallCapture.Session.Capture

namespace CallCapture

namespace Value

/-- A list of texts as a value. The items keep their order, and
none is left out. -/
def texts (items : List String) : Value := .array (items.map .text)

/-- A signature as a value: the routine, and its types as a list. It is how
sets and manifests are shown to the session. -/
def ofSignature (signature : Signature) : Value :=
  .array [.text signature.routine, texts signature.argTypes]

/-- A number as a value. Values have integers of 64 bits, and no
session counts that far. -/
def ofNat (n : Nat) : Value := .int (Int64.ofNat n)

end Value

namespace Report

/-- The answer to finishing the outermost capture. It names the unit and the
artifact, and how many signatures were handed over. -/
def toValue (report : Report) : Value :=
  .dict [("unit", .text report.unit), ("artifact", .text report.artifact),
    ("signatures", .ofNat report.size)]

/-- The answer to finishing any capture. A nested one has no report, and then
the answer is no value. -/
def toValue? (report : Option Report) : Value := (report.map toValue).getD .null

end Report

namespace Flags

/-- Which of some units have opted out, in the order in which they are asked
for. Units that were never mentioned are among those that have not. -/
def skips (flags : Flags) (units : List String) : Value :=
  .array (units.map fun unit => .bool (flags.skipCapture unit))

/-- What flags answer to all that can be asked of them about some units.
Snapshots and live switches answer alike. -/
def toValue (flags : Flags) (units : List String) : Value :=
  .dict [("force_run", .bool flags.forceRun), ("verbose", .bool flags.verbose),
    ("forced", .bool flags.forced), ("skip", flags.skips units)]

end Flags

namespace Act

/-- The host that a name stands for. A name that stands for none
ends the evaluation. -/
def hostNamed (name : String) : Act HostId := named Names.hosts name

/-- The flags that a name stands for. Two names can stand for the same flags,
which then change together. -/
def flagsNamed (name : String) : Act FlagsId := named Names.flags name

/-- The sink that a name stands for. Precompilers find their sink in this way
once, when they are made. -/
def sinkNamed (name : String) : Act SinkId := named Names.sinks name

/-- The host that the monitor with a name is over. A monitor is nothing beside
its host, so two monitors over one host are the same. What one of them begins
the other one can end. -/
def monitorNamed (name : String) : Act HostId := named Names.monitors name

/-- The precompiler that a name stands for. Its name in the session need not
be the name of its unit. -/
def precompilerNamed (name : String) : Act Precompiler := named Names.precompilers name

/-- Preferences from a text, with what is to be said of them. Nothing
is changed if the text does not hold any. The remarks are noted also if
the text is refused. -/
def preferences (text : String) : Act Preferences := do
  let result := Preferences.ofText text
  noteAll (Preferences.remarksOn result)
  orFail result

/-- Edits the flags with a name, for all precompilers that share them.
A name that stands for nothing is a fault of the session, and then
nothing is edited. -/
def changeFlags (name : String) (change : Flags → Flags) : Act Value := do
  let id ← flagsNamed name
  setFlags id (change (← flags id))
  return .null

/-- Takes over every value of `preferences`, whatever the values before.
The identity of the flags stays, so all precompilers that share them see
the new values at once. -/
def reload (name : String) (preferences : Preferences) : Act Value :=
  changeFlags name fun _ => .ofPreferences preferences

/-- Makes new flags and gives them a name. Whoever shares the flags that had
the name before keeps those. -/
def nameFlags (name : String) (values : Flags) : Act Value := do
  let id : FlagsId := ⟨← number⟩
  setFlags id values
  rename fun names => { names with flags := putEntry names.flags name id }
  return .null

/-- Keeps the values of flags under a name, apart from the flags. Later edits
do not reach them. A snapshot with the same name is replaced. -/
def nameSnapshot (name : String) (values : Flags) : Act Value := do
  rename fun names => { names with snapshots := putEntry names.snapshots name values }
  return .null

/-- Gives a precompiler a name, in place of the one that had it. Captures that
the old one has begun stay as they are. -/
def namePrecompiler (name : String) (precompiler : Precompiler) : Act Value := do
  rename fun names => { names with precompilers := putEntry names.precompilers name precompiler }
  return .null

/-- Makes an oracle. One that reads a variable reads the usual one unless
another is given. -/
def oracle : OracleForm → Act Oracle
  | .fixed phase => return .fixed phase
  | .environment name => return .environment (name.getD defaultPhaseVariable)
  | .sequence answers => do return .sequence ⟨← number⟩ answers

/-- The directory of the manifests of a sink, which lies directly in
the top directory. -/
def manifestDirectory (sink : String) : Path := [sink]

/-- Takes over the files behind an operation, or ends with its fault and
leaves the files as they were. It is used by commands that change files behind
the back of a sink. -/
def setFiles (result : Except FileFault Files) : Act Value := do
  let files ← orFail (result.mapError .file)
  modify fun world => { world with files := files }
  return .null

/-- The emitter with a name. Any other sink stands for nothing here. Commands
for emitters are refused for it. -/
def emitter (name : String) : Act Emitter := do
  match ← sink (← sinkNamed name) with
  | .emitter store => return store
  | _ => throw (.unbound name)

/-- What a recording sink with a name has been handed so far. Any other sink
stands for nothing here. -/
def emissions (name : String) : Act (List Emission) := do
  match ← sink (← sinkNamed name) with
  | .recording emissions => return emissions
  | _ => throw (.unbound name)

/-- Makes a sink and gives it a name. An emitter with manifests keeps them in
a directory of the same name. The directory itself is made when the first
manifest is written. -/
def newSink (name : String) (form : SinkForm) : Act Value := do
  let id : SinkId := ⟨← number⟩
  setSink id <| match form with
    | .recording => .recording []
    | .rejecting message => .rejecting message
    | .emitter => .emitter {}
    | .manifest => .emitter { directory := some (manifestDirectory name) }
  rename fun names => { names with sinks := putEntry names.sinks name id }
  return .null

/-- Makes a precompiler out of things that have names. Its artifact has
the name of its unit until another is asked for. Things are looked up
in the order in which they are named, and the first name that stands
for nothing ends it. -/
def newPrecompiler (name : String) (form : PrecompilerForm) : Act Value := do
  let oracle ← oracle form.oracle
  let flags ← flagsNamed form.flags
  let engine ← hostNamed form.host
  let sink ← sinkNamed form.sink
  let monitor ← match form.monitor with
    | none => pure engine
    | some monitor => monitorNamed monitor
  namePrecompiler name ⟨form.unit, form.unit, oracle, flags, monitor, engine, sink⟩

/-- Puts back the mode of a lockout that is no longer held under `name`.
Nobody asks whether another lockout of the same host is still held. -/
def release (name : String) (lockout : Lockout) : Act Unit := do
  note (.letGo (lockout.holding name))
  unlock lockout.engine lockout.previous

/-- Takes a lockout into the hand under a name. One that had the
name is released behind it, and so puts its own mode back while
the new one is held. -/
def lockNamed (name host : String) : Act Value := do
  let engine ← hostNamed host
  let lockout : Lockout := ⟨engine, ← lock engine⟩
  note (.held (lockout.holding name))
  let replaced := (← get).names.lockouts.lookup name
  rename fun names => { names with lockouts := putEntry names.lockouts name lockout }
  match replaced with
  | none => pure ()
  | some old => release name old
  return .text lockout.previous.display

/-- Releases the lockout with a name, if there is one. Its name is free again
before it is released. -/
def unlockNamed (name : String) : Act Value := do
  match (← get).names.lockouts.lookup name with
  | none => return .text "no lock"
  | some lockout =>
    rename fun names => { names with lockouts := names.lockouts.filter fun entry => entry.1 ≠ name }
    release name lockout
    return .null

/-- Takes a guard out of its name. The capture stays open. Whoever takes it
has to end the capture. -/
def takeGuard (name : String) : Act (Option Guard) := do
  let found := (← get).names.guards.lookup name
  rename fun names => { names with guards := names.guards.filter fun entry => entry.1 ≠ name }
  return found

/-- Disarms a capture that is no longer held under `name`, as an unfinished
one. Its signatures are handed over like those of a capture that is finished,
but nobody is answered. -/
def dropNamed (name : String) (guard : Guard) : Act Unit := do
  note (.letGo (guard.holding name))
  guard.drop

/-- Finishes a capture that is no longer held under `name`, and reports if it
was the last level. -/
def finishNamed (name : String) (guard : Guard) : Act (Option Report) := do
  note (.letGo (guard.holding name))
  guard.disarm

/-- Begins a capture and keeps it under a name. A capture that had the name is
dropped behind it, when the new one is open already. The answer tells whether
the new capture is the outermost one on its host. -/
def beginNamed (thread : ThreadId) (name guardName : String) : Act Value := do
  match ← (← precompilerNamed name).beginCapture thread with
  | none => return .text "gated"
  | some guard =>
    note (.held (guard.holding guardName))
    let replaced ← takeGuard guardName
    rename fun names => { names with guards := putEntry names.guards guardName guard }
    match replaced with
    | none => pure ()
    | some old => dropNamed guardName old
    match guard.nesting with
    | .outermost => return .text "outermost"
    | .nested _ => return .text "nested"

end Act

namespace Command

open Act

/-- Runs a command for a current host and a current thread. Each command does
one thing to the state and answers with a value; those that fail leave what
they have done before. -/
def run (here : HostId) (thread : ThreadId) : Command → Act Value
  | newHost name => do
    let id : HostId := ⟨← number⟩
    setHost id {}
    rename fun names => { names with hosts := putEntry names.hosts name id }
    return .null
  | mode => return .text (← host here).mode.display
  | setMode wanted => do
    setHost here ((← host here).setMode wanted)
    note (.modeSet here wanted)
    return .null
  | hook name => do
    let id : CollectorId := ⟨← number⟩
    rename fun names => { names with collectors := putEntry names.collectors name id }
    setHost here { ← host here with listener := some (.collector id) }
    note (.hookInstalled here)
    return .null
  | unhook => do
    setHost here { ← host here with listener := none }
    note (.hookRemoved here)
    return .null
  | collected name => do
    let id ← named Names.collectors name
    return .texts (((← get).collectors.get id).map Signature.display)
  | newFlags name => nameFlags name {}
  | flagsOfText name text => do nameFlags name (.ofPreferences (← preferences text))
  | reloadFlags name text => do reload name (← preferences text)
  | setForceRun name on => changeFlags name fun flags => { flags with forceRun := on }
  | setVerbose name on => changeFlags name fun flags => { flags with verbose := on }
  | setSkip name unit on => changeFlags name fun flags => flags.setSkipCapture unit on
  | flagState name units => return (← flags (← flagsNamed name)).toValue units
  | shouldRun name unit phase => return .bool ((← flags (← flagsNamed name)).shouldRun unit phase)
  | snapshot name flagsName => do nameSnapshot name (← flags (← flagsNamed flagsName))
  | snapshotOf name precompiler => do
    nameSnapshot name (← flags (← precompilerNamed precompiler).flags)
  | snapshotState name units => return (← named Names.snapshots name).toValue units
  | snapshotShouldRun name unit phase =>
    return .bool ((← named Names.snapshots name).shouldRun unit phase)
  | sameSnapshots a b => return .bool ((← named Names.snapshots a).same (← named Names.snapshots b))
  | setVariable name value => do
    modify fun world =>
      { world with environment := match value with
          | none => world.environment.unset name
          | some text => world.environment.set name (.text text) }
    return .null
  | askPhase form => return .text (← orFail (← phase (← oracle form))).display
  | newSink name form => Act.newSink name form
  | emit sink artifact signatures => do
    handOver none (← sinkNamed sink) ⟨artifact, signatures⟩
    return .null
  | emissions sink =>
    return .array ((← Act.emissions sink).map fun emission =>
      .dict [("artifact", .text emission.artifact),
        ("signatures", .array (emission.signatures.map .ofSignature))])
  | emittedSignatures sink =>
    return .texts ((← Act.emissions sink).flatMap fun emission => emission.signatures.map Signature.display)
  | directives sink artifact =>
    return .array (((← emitter sink).directives artifact).map fun directive =>
      .array [.text directive.render, .ofSignature directive.signature])
  | isEmitted sink artifact signature => return .bool ((← emitter sink).isEmitted artifact signature)
  | stats sink => do
    let emitter ← emitter sink
    return .dict [("artifacts", .ofNat emitter.artifactCount), ("entries", .ofNat emitter.entryCount),
      ("has_oldest", .bool emitter.hasOldest)]
  | clear sink => do
    let id ← sinkNamed sink
    setSink id (.emitter (← emitter sink).clear)
    return .null
  | manifest sink artifact => do
    let manifest ← orFail (Manifest.load (← get).files (manifestDirectory sink) artifact)
    return .dict [("artifact", .text manifest.artifact),
      ("signatures", .array (manifest.signatures.map .ofSignature)),
      ("directives", .texts manifest.directives)]
  | manifestText sink artifact => do
    let text := (← get).files.read (manifestDirectory sink) (manifestFileName artifact)
    return .text (← orFail (text.mapError .file))
  | manifestFiles sink => do
    let files := (← get).files
    match files.node? (manifestDirectory sink) with
    | some .directory =>
      return .texts ((files.names (manifestDirectory sink)).mergeSort fun a b => !(b < a))
    | _ => return .null
  | overwrite sink artifact text => do
    setFiles ((← get).files.write (manifestDirectory sink) (manifestFileName artifact) (.text text))
  | block sink => do
    let path := manifestDirectory sink
    setFiles (.ok (((← get).files.remove path).put path (.file (.text ""))))
  | unblock sink => do setFiles (.ok ((← get).files.remove (manifestDirectory sink)))
  | newMonitor name host => do
    let id ← hostNamed host
    rename fun names => { names with monitors := putEntry names.monitors name id }
    return .null
  | beginLevel monitor unit verbose => do
    let id ← monitorNamed monitor
    note (.monitorUsed id)
    match ← Act.beginLevel id unit verbose thread with
    | .outermost => return .text "outermost"
    | .nested depth => return .ofNat depth
  | endLevel monitor => do
    let id ← monitorNamed monitor
    note (.monitorUsed id)
    match ← Act.endLevel id with
    | .outermost found =>
      return .array (found.entries.map fun entry => .array [.ofSignature entry.1, .ofNat entry.2])
    | _ => return .null
  | isArmed monitor => return .bool (← host (← monitorNamed monitor)).armed.isSome
  | recorded monitor => return .array ((← host (← monitorNamed monitor)).recorded.map .ofSignature)
  | lock name host => lockNamed name host
  | unlock name => unlockNamed name
  | newPrecompiler name form => Act.newPrecompiler name form
  | withArtifact name precompiler artifact => do
    namePrecompiler name { ← precompilerNamed precompiler with artifact := artifact }
  | forUnit name precompiler unit => do
    namePrecompiler name { ← precompilerNamed precompiler with unit := unit, artifact := unit }
  | describe precompiler => do
    let found ← precompilerNamed precompiler
    return .array [.text found.unit, .text found.artifact, .bool (← host found.monitor).armed.isSome]
  | isEnabled precompiler => return .bool (← (← precompilerNamed precompiler).gate).isSome
  | beginCapture precompiler guard => beginNamed thread precompiler guard
  | finish guard => do
    match ← takeGuard guard with
    | none => return .text "no guard"
    | some found => return Report.toValue? (← finishNamed guard found)
  | drop guard => do
    match ← takeGuard guard with
    | none => return .text "no guard"
    | some found =>
      dropNamed guard found
      return .null

end Command

end CallCapture
