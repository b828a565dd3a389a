import CallCapture.Host

namespace CallCapture

/-- Where a capture stands: it armed the host, or it joined a capture that is
so many levels deep now. What further captures dispatch goes into the set of
the outermost one. -/
inductive Nesting where
  | outermost
  | nested (depth : Nat)
  deriving DecidableEq, Inhabited

/-- What the end of a level comes to: no capture held the host, a further
level ended, or the capture is over and gives what it has recorded. -/
inductive Ending where
  | unarmed
  | nested
  | outermost (recorded : CaptureSet)
  deriving DecidableEq, Inhabited

namespace Host

variable {Body : Type}

/-- Opens a level for `thread`, unless another thread holds the host. On a
free host the recorder takes the place of whatever listened before; further
levels only raise a number. -/
def beginCapture? (host : Host Body) (thread : ThreadId) (verbose : Bool) : Option (Nesting × Host Body) :=
  match host.armed with
  | none =>
    some (.outermost, { host with listener := some .recorder, armed := some { owner := thread, verbose := verbose } })
  | some armed =>
    if armed.owner = thread then
      some (.nested (armed.depth + 1), { host with armed := some { armed with depth := armed.depth + 1 } })
    else none

/-- Closes a level, whoever asks for it: nothing is said of the
thread that asks. The last level takes the listener away and hands
over what was recorded. -/
def endCapture (host : Host Body) : Ending × Host Body :=
  match host.armed with
  | none => (.unarmed, host)
  | some armed =>
    if armed.depth = 0 then (.outermost armed.recorded, { host with listener := none, armed := none })
    else (.nested, { host with armed := some { armed with depth := armed.depth - 1 } })

/-- A resolved call reaches the recorder, which takes it into the set of the
outermost capture. Without a capture nothing is kept. -/
def hear (host : Host Body) (signature : Signature) : Host Body :=
  { host with armed := host.armed.map fun armed => { armed with recorded := armed.recorded.record signature } }

/-- The recorder reports this call: the capture is verbose, and the signature
is new to it. Only the flags of the outermost capture count. -/
def reports (host : Host Body) (signature : Signature) : Bool :=
  host.armed.any fun armed => armed.verbose && armed.recorded.isFresh signature

/-- Forces compilation; the mode it was in comes with it, to be put back by
whoever releases the lockout. -/
def lock (host : Host Body) : CompileMode × Host Body := (host.mode, host.setMode .forced)

end Host

end CallCapture
