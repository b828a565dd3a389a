import CallCapture.Session.Eval

namespace CallCapture

namespace Session

/-- The host that every session has from the start, under the name `h`. Other
hosts have numbers of the count that all things of a session share. -/
def firstHost : HostId := ⟨0⟩

/-- The thread that evaluates the forms of a session, one after the other.
Other threads are started by forms of their own. -/
def mainThread : ThreadId := ⟨0⟩

/-- One host, no files, and nothing else. The session runs in a top directory
whose path has the given length. All other hosts, and everything else that has
a name, are made by its forms. -/
def initial (topLength : Nat) : World where
  names := { hosts := [("h", firstHost)] }
  files := { topLength := topLength }

/-- Where the forms of a session are evaluated: on the first host, outside of
all methods, by the main thread. -/
def context : Context := { host := firstHost, thread := mainThread }

/-- No session nests its evaluations deeper than this. It is a bound for the
evaluator alone, which a form that never ends comes to. -/
def maxDepth : Nat := 1000000

/-- What can be seen of a host: its mode, and whether a capture holds it with
what that has recorded so far. The set is shown as the list of its signatures,
without the numbers of sights. -/
structure HostView where
  name : String
  mode : CompileMode
  isArmed : Bool
  recorded : List Signature
  deriving DecidableEq, Inhabited

/-- How a step ended, what happened in it, and the hosts behind it. Nothing
else of a step is compared with what a run of the program shows. -/
structure StepView where
  outcome : Except Halt Value
  occurrences : List Occurrence
  hosts : List HostView

/-- What can be seen of all hosts that have a name, in the order in
which they got it. -/
def viewHosts (world : World) : List HostView :=
  world.names.hosts.map fun (name, id) =>
    let host := world.hosts.get id
    ⟨name, host.mode, host.armed.isSome, host.recorded⟩

/-- Evaluates one form; whatever its end, the session goes on from there. The
trace begins anew with every form, so each view has its own occurrences. -/
def step (world : World) (form : Form) : StepView × World :=
  let (outcome, after) := (eval maxDepth context form).run { world with trace := [] }
  (⟨outcome, after.trace.reverse, viewHosts after⟩, after)

/-- The views behind some forms, each evaluated in the world that the one
before it has left. -/
def run (world : World) : List Form → List StepView
  | [] => []
  | form :: forms =>
    let (view, after) := step world form
    view :: run after forms

end Session

/-- The views behind each form of a session that starts from nothing. What a
session shows depends on this length only where a path comes to its limit. -/
def runSession (topLength : Nat) (forms : List Form) : List Session.StepView :=
  Session.run (Session.initial topLength) forms

end CallCapture
