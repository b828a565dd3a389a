import CallCapture.Proofs.FlagReads

namespace CallCapture

/-- One evaluation of a form. It is the only kind of step in which flags
can be looked at. -/
structure Evaluation where
  fuel : Nat
  context : Context
  form : Form
  world : World

/-- The same evaluation with other values of all flags. Which form it is and
where it is done are the same. -/
def Evaluation.withFlags (evaluation : Evaluation) (flags : Store FlagsId Flags) : Evaluation :=
  { evaluation with world := evaluation.world.withFlags flags }

/-- What is left of a run, with a limit to the fuel of the evaluations in it:
forms that are still to be evaluated, and steps between them that have nothing
to do with flags and oracles. That it can be taken apart shows where in a run
flags can be looked at. -/
inductive Rest (limit : Nat) : Type → Type 1
  | step {α : Type} (action : Act α) (aloof : action.Aloof) : Rest limit α
  | evaluate (fuel : Nat) (below : fuel < limit) (context : Context) (form : Form) : Rest limit Value
  | bind {α β : Type} (first : Rest limit α) (next : α → Rest limit β) : Rest limit β
  | attempt {α : Type} (rest : Rest limit α) : Rest limit (Except Halt α)

namespace Rest

variable {limit : Nat} {α β : Type}

/-- The action that is left to be done. Everything said of a rest is said
of this in the end. -/
def act {α : Type} : Rest limit α → Act α
  | step action _ => action
  | evaluate fuel _ context form => eval fuel context form
  | bind first next => first.act >>= fun value => (next value).act
  | attempt rest => Act.attempt rest.act

/-- From this world the rest comes to the evaluation of a form. Several
evaluations of one rest may be come to, one behind the other. -/
inductive ComesTo {limit : Nat} : {α : Type} → Rest limit α → World → Evaluation → Prop
  | here {fuel below context form world} :
      ComesTo (evaluate fuel below context form) world ⟨fuel, context, form, world⟩
  | first {α β : Type} {first : Rest limit α} {next : α → Rest limit β} {world evaluation} :
      first.ComesTo world evaluation → ComesTo (first.bind next) world evaluation
  | next {α β : Type} {first : Rest limit α} {next : α → Rest limit β} {world value later evaluation} :
      first.act.run world = (.ok value, later) → (next value).ComesTo later evaluation →
      ComesTo (first.bind next) world evaluation
  | attempt {α : Type} {rest : Rest limit α} {world evaluation} :
      rest.ComesTo world evaluation → ComesTo rest.attempt world evaluation

open Act in
/-- What flags do to the rest of a run they do to an evaluation in it. By
induction on the rest: its own steps have nothing to do with flags. What comes
behind an evaluation is judged in the world that it leaves, with the flags
that are left there. -/
theorem unlessApart {apart : Prop} (rest : Rest limit α) (world : World) (flags : Store FlagsId Flags)
    (evaluates : ∀ evaluation left, evaluation.fuel < limit → rest.ComesTo world evaluation →
      rest.ComesTo (world.withFlags flags) (evaluation.withFlags left) →
      UnlessApart apart (eval evaluation.fuel evaluation.context evaluation.form) evaluation.world left) :
    UnlessApart apart rest.act world flags := by
  induction rest generalizing world flags with
  | step action aloof => exact aloof.unlessApart
  | evaluate fuel below context form => exact evaluates ⟨fuel, context, form, world⟩ flags below .here .here
  | bind first next ihFirst ihNext =>
    have before : UnlessApart apart first.act world flags :=
      ihFirst world flags fun evaluation left below comes also => evaluates evaluation left below comes.first also.first
    refine before.bind fun value left ran alsoRan => ihNext value _ left fun evaluation last below comes also => ?_
    exact evaluates evaluation last below (.next ran comes) (.next alsoRan also)
  | attempt rest ih =>
    refine UnlessApart.attempt (ih world flags fun evaluation left below comes also => ?_)
    exact evaluates evaluation left below comes.attempt also.attempt

variable {fuel : Nat} (below : fuel < limit) (context : Context)

/-- One form that is still to be evaluated. -/
def part (form : Form) : Rest limit Value := evaluate fuel below context form

/-- A value that is there already. It comes from a step that does nothing. -/
def pass (value : α) : Rest limit α := step (pure value) (Act.aloof_pure value)

/-- Several forms, one after the other. The first that ends early
ends all of them. -/
def parts : List Form → Rest limit (List Value)
  | [] => pass []
  | form :: forms => (part below context form).bind fun value => (parts forms).bind fun values => pass (value :: values)

/-- What is left of a list of forms is the evaluation of each of them, in
order. -/
theorem act_parts (forms : List Form) : (parts below context forms).act = forms.mapM (eval fuel context) := by
  induction forms with
  | nil => rfl
  | cons form forms ih =>
    rw [List.mapM_cons, ← ih]
    rfl

/-- The values of two forms, one after the other. The second one is evaluated
only if the first one has a value. -/
def pair (a b : Form) (combine : Value → Value → Value) : Rest limit Value :=
  (part below context a).bind fun a => (part below context b).bind fun b => pass (combine a b)

/-- The value of one form, seen in some way. The view is a function of the
value alone, so flags have no part in it. -/
def single (form : Form) (view : Value → Value) : Rest limit Value :=
  (part below context form).bind fun value => pass (view value)

/-- The body of a method, with the call depth up around it. An error of the
body is held back until the body is left. -/
def within (id : HostId) (body : Rest limit Value) : Rest limit Value :=
  (step _ (Act.aloof_host id)).bind fun before => (step _ (Act.aloof_setHost id before.enter)).bind fun _ =>
    (step _ (Act.aloof_note (.entered id))).bind fun _ => body.attempt.bind fun result =>
      (step _ (Act.aloof_host id)).bind fun behind => (step _ (Act.aloof_setHost id behind.leave)).bind fun _ =>
        (step _ (Act.aloof_note (.left id))).bind fun _ => step (Act.resume result) fun _ _ _ _ => rfl

/-- A call, from the search for its method to the end of its body. Listeners
are told before the body is entered, and the body is left however it ends. -/
def call (routine : String) (args : List Value) : Rest limit Value :=
  (step _ (Act.aloof_resolve context.host (.ofCall routine args))).bind fun method =>
    (step _ (Act.aloof_publish context.host (.ofCall routine args))).bind fun _ =>
      within context.host (part below { context with args := args } method.body)

/-- A call that is bound when it is compiled. Nobody is told of it. The search
for its method is the same as that of other calls. -/
def callStatic (routine : String) (args : List Value) : Rest limit Value :=
  (step _ (Act.aloof_resolve context.host (.ofCall routine args))).bind fun method =>
    within context.host (part below { context with args := args } method.body)

/-- Calls a routine for each item, with the value so far. It is a fold
whose step is a call. -/
def calls (routine : String) (value : Value) : List Value → Rest limit Value
  | [] => pass value
  | item :: items => (call below context routine [value, item]).bind fun value => calls routine value items

theorem act_calls (routine : String) (value : Value) (items : List Value) :
    (calls below context routine value items).act =
      items.foldlM (fun value item => context.call (eval fuel) routine [value, item]) value := by
  induction items generalizing value with
  | nil => rfl
  | cons item items ih =>
    rw [List.foldlM_cons]
    exact bind_congr fun next => ih next

/-- What the evaluation of a form is made of, but for commands and scopes. For
commands and scopes there is none: only these may look at flags. -/
def ofForm? : Form → Option (Rest limit Value)
  | .literal value => some (pass value)
  | .arg index => some (pass ((context.args[index]?).getD .null))
  | .args => some (pass (.array context.args))
  | .list items => some ((parts below context items).bind fun values => pass (.array values))
  | .sequence forms => some ((parts below context forms).bind fun values => pass (values.getLast?.getD .null))
  | .branch condition yes no => some ((part below context condition).bind fun value =>
      part below context (if value.isTrue then yes else no))
  | .add a b => some (pair below context a b fun a b => .float (a.floatOrZero + b.floatOrZero))
  | .multiply a b => some (pair below context a b fun a b => .float (a.floatOrZero * b.floatOrZero))
  | .addInts a b => some (pair below context a b fun a b => .int (a.intOrZero + b.intOrZero))
  | .length form => some (single below context form fun value => .ofNat value.itemsOrNone.length)
  | .first form => some (single below context form fun value => (value.itemsOrNone.head?).getD .null)
  | .typeOf form => some (single below context form fun value => .text value.typeName)
  | .same a b => some (pair below context a b fun a b => .bool (a.same b))
  | .fail message => some (step (Act.fail (.workload message)) (Act.aloof_throw _))
  | .panic message => some (step (throw (.panic message)) (Act.aloof_throw _))
  | .attempt form => some ((part below context form).attempt.bind fun
      | .ok value => pass (.array [.text "ok", value])
      | .error (.error error) => pass (.ofError error)
      | .error (.panic message) => pass (.array [.text "panic", .text message])
      | .error halt => step (throw halt) (Act.aloof_throw _))
  | .thread form => some ((step _ Act.aloof_number).bind fun number =>
      part below { context with thread := ⟨number⟩ } form)
  | .on host form => some ((step (Act.hostNamed host) (Act.aloof_named _ _)).bind fun host =>
      part below { context with host := host } form)
  | .register routine pattern body => some ((step _ (Act.aloof_host context.host)).bind fun before =>
      (step _ (Act.aloof_setHost context.host
        { before with table := before.table.register ⟨routine, pattern, body⟩ })).bind fun _ => pass .null)
  | .call routine args => some ((parts below context args).bind fun values => call below context routine values)
  | .callStatic routine args =>
      some ((parts below context args).bind fun values => callStatic below context routine values)
  | .fold routine initial items => some ((part below context initial).bind fun start =>
      (part below context items).bind fun found => calls below context routine start found.itemsOrNone)
  | .compile .. | .setup .. | .guarded .. | .command _ => none

/-- To evaluate such a form is to do what it is made of. One case for
each kind of form. -/
theorem eval_eq_act {form : Form} {rest : Rest limit Value} (made : ofForm? below context form = some rest) :
    eval (fuel + 1) context form = rest.act := by
  cases form with
  | compile | setup | guarded | command => cases made
  | branch condition yes no =>
    cases made
    refine bind_congr fun value => ?_
    change _ = eval fuel context (if value.isTrue then yes else no)
    split <;> rfl
  | list items | sequence items | call _ items | callStatic _ items =>
    cases made
    exact congrArg (· >>= _) (act_parts below context items).symm
  | fold routine initial items =>
    cases made
    refine bind_congr fun start => bind_congr fun found => ?_
    exact (act_calls below context routine start found.itemsOrNone).symm
  | attempt form =>
    cases made
    refine bind_congr fun result => ?_
    rcases result with (_ | _ | _ | _) | _ <;> rfl
  | _ =>
    cases made
    rfl

end Rest

end CallCapture
