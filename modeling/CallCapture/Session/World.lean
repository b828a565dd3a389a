import CallCapture.Emitter
import CallCapture.Flags
import CallCapture.Monitor
import CallCapture.Occurrence
import CallCapture.Session.Form

namespace CallCapture

/-- Flags of a session are told apart by numbers, so that several precompilers
can share the same ones and see each edit. -/
structure FlagsId where
  number : Nat
  deriving DecidableEq, Inhabited

/-- Oracles that count their answers are told apart by numbers, so that each
count is kept once. -/
structure OracleId where
  number : Nat
  deriving DecidableEq, Inhabited

/-- A value for every key; keys that were never put have the default. So
nothing has to be said of keys that stand for nothing. -/
structure Store (Key Value : Type) where
  entries : List (Key × Value) := []
  deriving Inhabited

namespace Store

variable {Key Value : Type} [DecidableEq Key]

/-- The value of a key: the one that was put last, or the default. So there is
a value for every key, and only some of them were put. -/
def get [Inhabited Value] (store : Store Key Value) (key : Key) : Value :=
  (store.entries.lookup key).getD default

/-- Gives a key a value in place of the one that it had. All other keys
keep their values. -/
def put (store : Store Key Value) (key : Key) (value : Value) : Store Key Value :=
  ⟨(key, value) :: store.entries.filter fun entry => entry.1 ≠ key⟩

/-- Putting changes the value of its key and of no other. All that is known of
a world after a step comes from this. -/
theorem get_put [Inhabited Value] (store : Store Key Value) (key other : Key) (value : Value) :
    (store.put key value).get other = if other = key then value else store.get other := by
  simp only [put, get, lookup_cons_pair]
  by_cases h : other = key
  · simp only [if_pos h, Option.getD_some]
  · simp only [if_neg h, lookup_filter_ne _ _ _ h]

end Store

/-- An oracle is asked for the phase. The answers of a sequence are
counted, and whoever has the oracle shares the count. A fixed one is never
at fault, and a variable is read when it is asked for, so it may change
between two scopes. -/
inductive Oracle where
  | fixed (phase : Phase)
  | environment (name : String)
  | sequence (id : OracleId) (answers : List String)
  deriving DecidableEq, Inhabited

/-- One unit with all that its captures need: `monitor` is the host whose
calls are recorded, `engine` the host that is made to compile. The two are the
same unless a monitor over another host was asked for. Its flags and its sink
are shared with whoever else was made with them. -/
structure Precompiler where
  unit : String
  artifact : String
  oracle : Oracle
  flags : FlagsId
  monitor : HostId
  engine : HostId
  sink : SinkId
  deriving DecidableEq, Inhabited

/-- An open capture, with the mode that its lockout puts back. It says for
itself whether it was the outermost one; the host knows only how many
levels there are. -/
structure Guard where
  precompiler : Precompiler
  previous : CompileMode
  nesting : Nesting
  deriving DecidableEq, Inhabited

/-- What is held by hand if a capture is kept under a name: a level of one
host, and the mode of a host. -/
def Guard.holding (guard : Guard) (name : String) : Holding :=
  ⟨name, some guard.precompiler.monitor, guard.precompiler.engine, guard.previous⟩

/-- A lockout that is held outside any capture: it makes a host compile, and
knows which mode to put back. It has no level and no owner, so two of them
over one host can be released in either order. -/
structure Lockout where
  engine : HostId
  previous : CompileMode
  deriving DecidableEq, Inhabited

/-- What is held by hand if a lockout is kept under a name: the mode of a
host, and no level of any. -/
def Lockout.holding (lockout : Lockout) (name : String) : Holding :=
  ⟨name, none, lockout.engine, lockout.previous⟩

/-- What the names of a session stand for, each kind of thing by itself. A
name stands for the latest thing that was given it. Snapshots, lockouts,
precompilers and guards have no numbers: a name stands for the thing itself,
as it was when it was named. -/
structure Names where
  hosts : List (String × HostId) := []
  collectors : List (String × CollectorId) := []
  flags : List (String × FlagsId) := []
  snapshots : List (String × Flags) := []
  sinks : List (String × SinkId) := []
  monitors : List (String × HostId) := []
  lockouts : List (String × Lockout) := []
  precompilers : List (String × Precompiler) := []
  guards : List (String × Guard) := []
  deriving DecidableEq, Inhabited

/-- The state of a session: all things by their numbers, what the names
stand for, and what has happened. `fresh` numbers the next thing that needs
a number; `trace` has the newest occurrence first. `asked` has the counts
of answers of the oracles that count them, and `collectors` what each
collector has heard. -/
structure World where
  hosts : Store HostId (Host Form) := {}
  collectors : Store CollectorId (List Signature) := {}
  flags : Store FlagsId Flags := {}
  asked : Store OracleId Nat := {}
  sinks : Store SinkId Sink := {}
  names : Names := {}
  environment : Environment := {}
  files : Files := {}
  fresh : Nat := 1
  trace : List Occurrence := []
  deriving Inhabited

/-- What ends an evaluation early: an error of the program, a panic, a name
that stands for nothing, or no fuel. Only the first two are part of what a
session means. A name that stands for nothing is a fault of the session
itself, and a lack of fuel one of the evaluator. -/
inductive Halt where
  | error (error : Error)
  | panic (message : String)
  | unbound (name : String)
  | exhausted
  deriving DecidableEq, Inhabited

/-- Actions change the world also when they end early, so nothing is undone by
an error or a panic. This is why every end of a capture has to be written out:
it does not happen by itself. -/
abbrev Act := ExceptT Halt (StateM World)

namespace Act

variable {α : Type}

/-- Something happens: it is put in front of the trace, and nothing else
changes. Some occurrences are lines of the log as well. -/
def note (occurrence : Occurrence) : Act Unit :=
  modify fun world => { world with trace := occurrence :: world.trace }

/-- Several things happen, one after the other. The last of them is in front
of the trace behind that. -/
def noteAll (occurrences : List Occurrence) : Act Unit := occurrences.forM note

/-- Ends an action with an error of the program. What it has done to the world
before stays done. -/
def fail (error : Error) : Act α := throw (.error error)

/-- The value of a result, or an end with its error. A pure check becomes a
step of an action in this way. -/
def orFail (result : Except Error α) : Act α :=
  match result with
  | .ok value => pure value
  | .error error => fail error

/-- Runs an action to its end, early or not, and goes on with how it ended.
What it has done to the world stays. Everything that has to happen in any case
is written behind one. -/
def attempt (action : Act α) : Act (Except Halt α) := ExceptT.lift action.run

/-- Goes on as an action that has been run to its end. If it ended early, so
does what it is resumed in. -/
def resume (result : Except Halt α) : Act α := ExceptT.mk (pure result)

/-- A number that nothing else has. Hosts, sinks, flags, oracles, collectors
and threads are all numbered by the same count. -/
def number : Act Nat := do
  let world ← get
  set { world with fresh := world.fresh + 1 }
  return world.fresh

/-- What a name stands for. A session that asks for any other name is ended,
which no error of the program does. It cannot be caught by a form that catches
errors and panics. -/
def named (find : Names → List (String × α)) (name : String) : Act α := do
  match (find (← get).names).lookup name with
  | some found => return found
  | none => throw (.unbound name)

/-- Changes what names stand for. What they stand for does not change by
it. -/
def rename (change : Names → Names) : Act Unit :=
  modify fun world => { world with names := change world.names }

/-- The host with a number. A number that stands for no host yet
has a new one. It is looked up anew for every step, as other steps
may have changed it. -/
def host (id : HostId) : Act (Host Form) := do
  return (← get).hosts.get id

/-- Puts a host in the place of what it was before. All other hosts and the
names of this one stay as they are. -/
def setHost (id : HostId) (host : Host Form) : Act Unit :=
  modify fun world => { world with hosts := world.hosts.put id host }

/-- The flags with a number, as they are now. They are read at this moment;
what comes later is not seen in them. -/
def flags (id : FlagsId) : Act Flags := do
  return (← get).flags.get id

/-- Puts flags in the place of what they were, for all that share them.
Precompilers that were made of them see it at their next gate. -/
def setFlags (id : FlagsId) (flags : Flags) : Act Unit :=
  modify fun world => { world with flags := world.flags.put id flags }

/-- The sink with a number, as it is now. Whoever shows it, or hands something
over to it, looks it up anew. -/
def sink (id : SinkId) : Act Sink := do
  return (← get).sinks.get id

/-- Puts a sink in the place of what it was. A sink that refuses is not put
back, so it stays what it was. -/
def setSink (id : SinkId) (sink : Sink) : Act Unit :=
  modify fun world => { world with sinks := world.sinks.put id sink }

end Act

end CallCapture
