import CallCapture.Session.Command

namespace CallCapture

/-- Where a form is evaluated: the current host, the arguments of the method
around it, and the thread. Forms that enter another host or start a thread
change it for their own parts only. -/
structure Context where
  host : HostId
  args : List Value := []
  thread : ThreadId
  deriving Inhabited

namespace Value

/-- The booleans and integers that a branch takes for true. All other
values count as false. -/
def isTrue : Value → Bool
  | bool b => b
  | int i => i != 0
  | _ => false

/-- The number that a sum or a product takes for a value; whatever is no
number counts as zero. -/
def floatOrZero (value : Value) : Float := value.asFloat?.getD 0

/-- The integer that a sum of integers takes for a value; whatever is
none counts as zero. -/
def intOrZero (value : Value) : Int64 := value.asInt?.getD 0

/-- The items that a fold goes through; a value without items gives none. A
fold over such a value comes to what it started with. -/
def itemsOrNone (value : Value) : List Value := value.asArray?.getD []

/-- How a caught error or panic looks: its family, and its wording if it has
one. A form that catches one answers with it, and goes on. -/
def ofError (error : Error) : Value :=
  .array [.text "err", .text error.kind, (error.message?.map .text).getD .null]

end Value

namespace Act

/-- Runs the body of a method. The call depth goes up for it, and comes
down however it ends. A body that fails is left as well, and only then
the failure goes on. -/
def within (id : HostId) (body : Act Value) : Act Value := do
  setHost id (← host id).enter
  note (.entered id)
  let result ← attempt body
  setHost id (← host id).leave
  note (.left id)
  resume result

/-- The method for a call. If none fits, the call fails before anybody hears
of it. The listener, the mode and the depth have no part in the choice. -/
def resolve (id : HostId) (signature : Signature) : Act (Method Form) := do
  match (← host id).table.resolve? signature with
  | some method => return method
  | none => fail (.noMatchingMethod signature)

end Act

/-- What an evaluator does with a form in a context. All that runs
bodies takes one as a parameter, so that it can be spoken of without
the recursion that ties it to the evaluation. The evaluation itself is
one, with less fuel. -/
abbrev Evaluator := Context → Form → Act Value

namespace Context

open Act

variable (eval : Evaluator)

/-- Calls a routine by the types of the arguments; the listener hears of it if
the calling code is compiled. The method is looked for first, then the call is
made known, and then its body is entered. -/
def call (context : Context) (routine : String) (args : List Value) : Act Value := do
  let signature := Signature.ofCall routine args
  let method ← resolve context.host signature
  publish context.host signature
  within context.host (eval { context with args := args } method.body)

/-- Calls a routine whose method is known beforehand; nobody hears of it, in
any mode. The choice of the method is the same as for any call. -/
def callStatic (context : Context) (routine : String) (args : List Value) : Act Value := do
  let method ← resolve context.host (.ofCall routine args)
  within context.host (eval { context with args := args } method.body)

/-- The end of a workload. An error of its own comes before an error of
the emission, which is then only noted; a panic goes on behind the
unfinished capture. Whether an emission has failed as well can then be
told from the notes alone. -/
def finishWorkload (guard : Guard) (outcome : Except Halt Value) : Act Value := do
  let unit := guard.precompiler.unit
  match outcome with
  | .ok value =>
    discard guard.disarm
    return .array [.text "ran", value]
  | .error (.error error) =>
    match ← attempt guard.disarm with
    | .ok _ => note (.workloadFailed unit)
    | .error (.error emission) => note (.emissionFailedToo unit emission)
    | .error halt => throw halt
    fail error
  | .error halt =>
    guard.drop
    throw halt

/-- Captures what a body calls, if the gate is open; else the body is not
run. However the body ends, the capture is closed behind it. A closed
gate and a refusal are told apart by the answer: the one is a value, and
the other an error. -/
def compile (context : Context) (precompiler : Precompiler) (body : Form) : Act Value := do
  match ← precompiler.beginCapture context.thread with
  | none => return .text "gated"
  | some guard => finishWorkload guard (← attempt (eval context body))

/-- Runs a body behind an open gate, as a capture would, and captures nothing.
The host is not claimed, so it may be held by another thread. -/
def setup (context : Context) (precompiler : Precompiler) (body : Form) : Act Value := do
  match ← precompiler.gate with
  | none => return .text "gated"
  | some _ => return .array [.text "ran", ← eval context body]

/-- A capture that is finished by hand behind the body, and dropped
if the body does not return. Its answer has the report beside the
value of the body. -/
def guarded (context : Context) (precompiler : Precompiler) (body : Form) : Act Value := do
  match ← precompiler.beginCapture context.thread with
  | none => return .text "gated"
  | some guard =>
    match ← attempt (eval context body) with
    | .ok value => return .array [value, Report.toValue? (← guard.disarm)]
    | .error halt =>
      guard.drop
      throw halt

end Context

open Act in
/-- Evaluates a form, its parts from left to right; an error or a panic ends
it at once. Fuel bounds how deeply evaluations are nested; it says nothing
about a session but whether it comes to an end. A form that is out of fuel
fails in a way that no form can catch. -/
def eval : (fuel : Nat) → Evaluator
  | 0, _, _ => throw .exhausted
  | fuel + 1, context, form =>
    match form with
    | .literal value => return value
    | .arg index => return (context.args[index]?).getD .null
    | .args => return .array context.args
    | .list items => return .array (← items.mapM (eval fuel context))
    | .sequence forms => return ((← forms.mapM (eval fuel context)).getLast?).getD .null
    | .branch condition yes no => do
      if (← eval fuel context condition).isTrue then eval fuel context yes else eval fuel context no
    | .add a b => do
      let a ← eval fuel context a
      let b ← eval fuel context b
      return .float (a.floatOrZero + b.floatOrZero)
    | .multiply a b => do
      let a ← eval fuel context a
      let b ← eval fuel context b
      return .float (a.floatOrZero * b.floatOrZero)
    | .addInts a b => do
      let a ← eval fuel context a
      let b ← eval fuel context b
      return .int (a.intOrZero + b.intOrZero)
    | .length form => return .ofNat (← eval fuel context form).itemsOrNone.length
    | .first form => return ((← eval fuel context form).itemsOrNone.head?).getD .null
    | .typeOf form => return .text (← eval fuel context form).typeName
    | .same a b => do
      let a ← eval fuel context a
      let b ← eval fuel context b
      return .bool (a.same b)
    | .fail message => fail (.workload message)
    | .panic message => throw (.panic message)
    | .attempt form => do
      match ← attempt (eval fuel context form) with
      | .ok value => return .array [.text "ok", value]
      | .error (.error error) => return .ofError error
      | .error (.panic message) => return .array [.text "panic", .text message]
      | .error halt => throw halt
    | .thread form => do
      -- the thread is joined before anything else is evaluated, so that nothing is recorded or logged beside it
      let thread : ThreadId := ⟨← number⟩
      eval fuel { context with thread := thread } form
    | .on host form => do
      let host ← hostNamed host
      eval fuel { context with host := host } form
    | .register routine pattern body => do
      let before ← host context.host
      setHost context.host { before with table := before.table.register ⟨routine, pattern, body⟩ }
      return .null
    | .call routine args => do context.call (eval fuel) routine (← args.mapM (eval fuel context))
    | .callStatic routine args => do
      context.callStatic (eval fuel) routine (← args.mapM (eval fuel context))
    | .fold routine initial items => do
      let initial ← eval fuel context initial
      let items ← eval fuel context items
      items.itemsOrNone.foldlM (fun value item => context.call (eval fuel) routine [value, item]) initial
    | .compile precompiler body => do
      context.compile (eval fuel) (← precompilerNamed precompiler) body
    | .setup precompiler body => do
      context.setup (eval fuel) (← precompilerNamed precompiler) body
    | .guarded precompiler body => do
      context.guarded (eval fuel) (← precompilerNamed precompiler) body
    | .command command => command.run context.host context.thread

end CallCapture
