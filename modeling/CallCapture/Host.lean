import CallCapture.CaptureSet
import CallCapture.Value

namespace CallCapture

/-- How a host runs code that it has not compiled yet: some of it in an
interpreter, where calls go unheard, or none. -/
inductive CompileMode where
  | adaptive
  | forced
  deriving DecidableEq, Inhabited

/-- The name of a mode as logs and answers show it. It stands in the lines
about lockouts, with the mode that was found or restored. -/
def CompileMode.display : CompileMode → String
  | adaptive => "Adaptive"
  | forced => "Forced"

/-- Threads are told apart by numbers that are never used again, so a thread
that has ended is not taken for a later one. -/
structure ThreadId where
  number : Nat
  deriving DecidableEq, Inhabited

/-- A listener that only collects what it hears. What it has collected is kept
apart from the host, so it survives the listening. -/
structure CollectorId where
  number : Nat
  deriving DecidableEq, Inhabited

/-- A body for the calls of a routine whose argument types fit the pattern.
Hosts do not look into the body. -/
structure Method (Body : Type) where
  routine : String
  pattern : List String
  body : Body
  deriving Inhabited

/-- How many types of the pattern are concrete, if it fits: it has as
many types as there are arguments, and each of them is the argument's or
stands for every type. -/
def specificity? : (pattern argTypes : List String) → Option Nat
  | [], [] => some 0
  | wanted :: pattern, got :: argTypes =>
    if wanted = anyType then specificity? pattern argTypes
    else if wanted = got then (specificity? pattern argTypes).map (· + 1)
    else none
  | _, _ => none

/-- Methods, oldest first; a routine has each pattern at most once. The order
matters only among patterns that are equally specific. -/
structure MethodTable (Body : Type) where
  methods : List (Method Body) := []
  deriving Inhabited

namespace MethodTable

variable {Body : Type}

/-- A method replaces the one of the same routine and pattern, and
counts as the latest. -/
def register (table : MethodTable Body) (method : Method Body) : MethodTable Body :=
  ⟨(table.methods.filter fun old => old.routine ≠ method.routine ∨ old.pattern ≠ method.pattern) ++ [method]⟩

/-- The better of the best so far and a later candidate: the more specific
one, in a tie the later one. Folded over the candidates from the oldest on, it
finds the one to call. -/
def better (best : Option (Nat × Method Body)) (candidate : Nat × Method Body) : Option (Nat × Method Body) :=
  match best with
  | none => some candidate
  | some found => if found.1 ≤ candidate.1 then some candidate else some found

/-- The methods that fit, oldest first, each with its specificity. A method
fits if it is of the called routine and its pattern fits the types. -/
def candidates (table : MethodTable Body) (signature : Signature) : List (Nat × Method Body) :=
  table.methods.filterMap fun method =>
    if method.routine = signature.routine then
      (specificity? method.pattern signature.argTypes).map fun specificity => (specificity, method)
    else none

/-- The most specific method that fits, of several the latest. There is none
only if no method fits. -/
def resolve? (table : MethodTable Body) (signature : Signature) : Option (Method Body) :=
  ((table.candidates signature).foldl better none).map Prod.snd

end MethodTable

/-- Who hears of resolved calls: the recorder of the armed capture, or a
collector. A host has room for one of them. -/
inductive Listener where
  | recorder
  | collector (id : CollectorId)
  deriving DecidableEq, Inhabited

/-- A capture that holds the host: which thread began it, how many
further levels are open, whether it reports each new signature, and
what it has recorded. -/
structure Armed where
  owner : ThreadId
  depth : Nat := 0
  verbose : Bool
  recorded : CaptureSet := {}
  deriving DecidableEq, Inhabited

/-- A method table with dynamic dispatch on the types of the arguments, a
switch that says how code is compiled, and one place for a listener that
hears of resolved calls. `depth` counts the method bodies that have been
entered and not left. -/
structure Host (Body : Type) where
  table : MethodTable Body := {}
  listener : Option Listener := none
  armed : Option Armed := none
  mode : CompileMode := .adaptive
  depth : Nat := 0
  deriving Inhabited

namespace Host

variable {Body : Type}

/-- The calling code is compiled: always in forced mode, and inside method
bodies in any mode. Only calls from compiled code are heard of. -/
def isCompiled (host : Host Body) : Bool := host.mode == .forced || 0 < host.depth

/-- A method body is entered, and calls within it come from compiled code. The
depth is all that tells such calls from those of the session itself. -/
def enter (host : Host Body) : Host Body := { host with depth := host.depth + 1 }

/-- A method body is left, whatever it has come to. Every body that is entered
is left, so the depth is that of before again. -/
def leave (host : Host Body) : Host Body := { host with depth := host.depth - 1 }

/-- Sets the mode and nothing else; what is compiled already is not undone. It
is for those who force the host to remember which mode to set again. -/
def setMode (host : Host Body) (mode : CompileMode) : Host Body := { host with mode := mode }

/-- The signatures recorded so far by the capture that holds the host, in the
order of their first sight; none if nothing holds it. -/
def recorded (host : Host Body) : List Signature :=
  match host.armed with
  | some armed => armed.recorded.signatures
  | none => []

end Host

end CallCapture
