import CallCapture.Host
import CallCapture.Phase

namespace CallCapture

/-- Where a precompiler's phase comes from: it is fixed, it is read from an
environment variable, or the answers are given one by one, the last of them
for good. Only the last kind has a state of its own. -/
inductive OracleForm where
  | fixed (phase : Phase)
  | environment (name : Option String)
  | sequence (answers : List String)
  deriving DecidableEq, Inhabited

/-- Which sink to make: one that records in memory, one that refuses
everything with a message, or an emitter without or with manifests. An emitter
with manifests keeps them in a directory that has the name of the sink. -/
inductive SinkForm where
  | recording
  | rejecting (message : String)
  | emitter
  | manifest
  deriving DecidableEq, Inhabited

/-- What a precompiler is made of, by name. Without a monitor it gets one
over its host. The things that are named have to be there when the
precompiler is made. -/
structure PrecompilerForm where
  unit : String
  oracle : OracleForm
  flags : String
  host : String
  sink : String
  monitor : Option String
  deriving DecidableEq, Inhabited

/-- The forms that evaluate no other form: they make things, change them, ask
about them, and open and close captures and lockouts by hand. A command has no
parts, so what it does is said once, apart from the recursion over forms. -/
inductive Command where
  | newHost (name : String)
  | mode
  | setMode (mode : CompileMode)
  | hook (name : String)
  | unhook
  | collected (name : String)
  | newFlags (name : String)
  | flagsOfText (name text : String)
  | reloadFlags (name text : String)
  | setForceRun (name : String) (on : Bool)
  | setVerbose (name : String) (on : Bool)
  | setSkip (name unit : String) (on : Bool)
  | flagState (name : String) (units : List String)
  | shouldRun (name unit : String) (phase : Phase)
  | snapshot (name flags : String)
  | snapshotOf (name precompiler : String)
  | snapshotState (name : String) (units : List String)
  | snapshotShouldRun (name unit : String) (phase : Phase)
  | sameSnapshots (a b : String)
  | setVariable (name : String) (value : Option String)
  | askPhase (oracle : OracleForm)
  | newSink (name : String) (form : SinkForm)
  | emit (sink artifact : String) (signatures : List Signature)
  | emissions (sink : String)
  | emittedSignatures (sink : String)
  | directives (sink artifact : String)
  | isEmitted (sink artifact : String) (signature : Signature)
  | stats (sink : String)
  | clear (sink : String)
  | manifest (sink artifact : String)
  | manifestText (sink artifact : String)
  | manifestFiles (sink : String)
  | overwrite (sink artifact text : String)
  | block (sink : String)
  | unblock (sink : String)
  | newMonitor (name host : String)
  | beginLevel (monitor unit : String) (verbose : Bool)
  | endLevel (monitor : String)
  | isArmed (monitor : String)
  | recorded (monitor : String)
  | lock (name host : String)
  | unlock (name : String)
  | newPrecompiler (name : String) (form : PrecompilerForm)
  | withArtifact (name precompiler artifact : String)
  | forUnit (name precompiler unit : String)
  | describe (precompiler : String)
  | isEnabled (precompiler : String)
  | beginCapture (precompiler guard : String)
  | finish (guard : String)
  | drop (guard : String)
  deriving Inhabited

/-- The language of sessions: forms that compute values, define and call
routines, and capture the calls. -/
inductive Form where
  | literal (value : Value)
  | arg (index : Nat)
  | args
  | list (items : List Form)
  | sequence (forms : List Form)
  | branch (condition yes no : Form)
  | add (a b : Form)
  | multiply (a b : Form)
  | addInts (a b : Form)
  | length (form : Form)
  | first (form : Form)
  | typeOf (form : Form)
  | same (a b : Form)
  | fail (message : String)
  | panic (message : String)
  | attempt (form : Form)
  /-- The form is evaluated by a thread of its own, which is joined at once:
  the body around it goes on when the thread has ended, so no two threads of a
  body live together, and what they record and log is not interleaved. -/
  | thread (form : Form)
  | on (host : String) (form : Form)
  | register (routine : String) (pattern : List String) (body : Form)
  | call (routine : String) (args : List Form)
  | callStatic (routine : String) (args : List Form)
  | fold (routine : String) (initial items : Form)
  | compile (precompiler : String) (body : Form)
  | setup (precompiler : String) (body : Form)
  | guarded (precompiler : String) (body : Form)
  | command (command : Command)
  deriving Inhabited

end CallCapture
