import CallCapture.Proofs.Asides
import CallCapture.Proofs.Calls

namespace CallCapture

/-- The steps of an evaluation are allowed: to publish a call, to enter a
body and leave it, and whatever is done aside. Only the signatures of
calls are published. -/
structure AllowsSteps (allowed : World → List Occurrence → World → Prop) : Prop where
  composes : Composes allowed
  aside : ∀ {world occurrences later}, Aside world occurrences later → allowed world occurrences later
  publishes : ∀ id routine args, Act.Follows allowed (Act.publish id (.ofCall routine args))
  enters : ∀ (world : World) id, allowed world [.entered id] (world.entering id)
  leaves : ∀ (world : World) id, allowed world [.left id] (world.leaving id)

namespace AllowsSteps

open Act

variable {allowed : World → List Occurrence → World → Prop} {α β : Type}

theorem silent (steps : AllowsSteps allowed) {action : Act α} (silent : Silent action) : Follows allowed action :=
  silent.mono steps.aside

theorem bind (steps : AllowsSteps allowed) {action : Act α} {next : α → Act β} (first : Follows allowed action)
    (rest : ∀ value, Follows allowed (next value)) : Follows allowed (action >>= next) :=
  first.bind steps.composes rest

/-- A body that is entered and left does only what is allowed if what
happens inside does. -/
theorem within (steps : AllowsSteps allowed) (id : HostId) {body : Act Value} (inside : Follows allowed body) :
    Follows allowed (Act.within id body) := by
  intro world
  obtain ⟨occurrences, during⟩ := inside (world.entering id)
  refine ⟨[.entered id] ++ occurrences ++ [.left id], ?_⟩
  unfold after
  rw [within_run]
  exact steps.composes.append (steps.composes.append (steps.enters world id) during) (steps.leaves _ id)

variable {eval : Evaluator}

/-- A call is published, and its body is entered. Everything in
between is done aside. -/
theorem call (steps : AllowsSteps allowed) (evaluates : ∀ context form, Follows allowed (eval context form))
    (context : Context) (routine : String) (args : List Value) : Follows allowed (context.call eval routine args) := by
  refine steps.bind (steps.silent (remarking_resolve _ _).silent) fun method => ?_
  exact steps.bind (steps.publishes _ _ _) fun _ => steps.within _ (evaluates _ _)

theorem callStatic (steps : AllowsSteps allowed) (evaluates : ∀ context form, Follows allowed (eval context form))
    (context : Context) (routine : String) (args : List Value) :
    Follows allowed (context.callStatic eval routine args) := by
  refine steps.bind (steps.silent (remarking_resolve _ _).silent) fun method => ?_
  exact steps.within _ (evaluates _ _)

theorem compile (steps : AllowsSteps allowed) (evaluates : ∀ context form, Follows allowed (eval context form))
    (context : Context) (precompiler : Precompiler) (body : Form) :
    Follows allowed (context.compile eval precompiler body) := by
  refine steps.bind (steps.silent (precompiler.silent_beginCapture _)) fun opened => ?_
  cases opened with
  | none => exact steps.silent (silent_pure _)
  | some guard =>
    refine steps.bind (evaluates context body).attempt fun outcome => ?_
    exact steps.silent (Context.silent_finishWorkload guard outcome)

theorem setup (steps : AllowsSteps allowed) (evaluates : ∀ context form, Follows allowed (eval context form))
    (context : Context) (precompiler : Precompiler) (body : Form) :
    Follows allowed (context.setup eval precompiler body) := by
  refine steps.bind (steps.silent precompiler.remarking_gate.silent) fun answer => ?_
  cases answer with
  | none => exact steps.silent (silent_pure _)
  | some _ => exact steps.bind (evaluates context body) fun _ => steps.silent (silent_pure _)

theorem guarded (steps : AllowsSteps allowed) (evaluates : ∀ context form, Follows allowed (eval context form))
    (context : Context) (precompiler : Precompiler) (body : Form) :
    Follows allowed (context.guarded eval precompiler body) := by
  refine steps.bind (steps.silent (precompiler.silent_beginCapture _)) fun opened => ?_
  cases opened with
  | none => exact steps.silent (silent_pure _)
  | some guard =>
    refine steps.bind (evaluates context body).attempt fun outcome => ?_
    split
    · exact steps.silent (guard.silent_disarm.bind fun _ => silent_pure _)
    · exact steps.silent (guard.silent_drop.bind fun _ => silent_throw _)

/-- What is allowed step by step is allowed for an evaluation. A relation that
is about calls alone needs to be looked at for calls alone. -/
theorem follows_eval (steps : AllowsSteps allowed) (fuel : Nat) (context : Context) (form : Form) :
    Follows allowed (CallCapture.eval fuel context form) := by
  induction fuel generalizing context form with
  | zero => exact steps.silent (silent_throw _)
  | succ fuel ih =>
    have items (context : Context) (forms : List Form) :
        Follows allowed (forms.mapM (CallCapture.eval fuel context)) :=
      Follows.mapM steps.composes forms (ih context)
    unfold CallCapture.eval
    cases form with
    | literal value => exact steps.silent (silent_pure _)
    | arg index => exact steps.silent (silent_pure _)
    | args => exact steps.silent (silent_pure _)
    | list forms => exact steps.bind (items context forms) fun _ => steps.silent (silent_pure _)
    | sequence forms => exact steps.bind (items context forms) fun _ => steps.silent (silent_pure _)
    | branch condition yes no =>
      refine steps.bind (ih context condition) fun answer => ?_
      split
      · exact ih context yes
      · exact ih context no
    | add a b | multiply a b | addInts a b | same a b =>
      exact steps.bind (ih context a) fun _ => steps.bind (ih context b) fun _ => steps.silent (silent_pure _)
    | length form | first form | typeOf form =>
      exact steps.bind (ih context form) fun _ => steps.silent (silent_pure _)
    | fail message => exact steps.silent (silent_throw _)
    | panic message => exact steps.silent (silent_throw _)
    | attempt form =>
      refine steps.bind (ih context form).attempt fun result => ?_
      split
      · exact steps.silent (silent_pure _)
      · exact steps.silent (silent_pure _)
      · exact steps.silent (silent_pure _)
      · exact steps.silent (silent_throw _)
    | thread form => exact steps.bind (steps.silent still_number.silent) fun number => ih _ form
    | on host form => exact steps.bind (steps.silent (remarking_named _ _).silent) fun found => ih _ form
    | register routine pattern body =>
      refine steps.silent fun world => ⟨[], ?_⟩
      exact (world.registering_moved context.host ⟨routine, pattern, body⟩).aside rfl (by simp) (.of_armed rfl rfl)
    | call routine args => exact steps.bind (items context args) fun args => steps.call ih context routine args
    | callStatic routine args =>
      exact steps.bind (items context args) fun args => steps.callStatic ih context routine args
    | fold routine initial forms =>
      refine steps.bind (ih context initial) fun initial => steps.bind (ih context forms) fun found => ?_
      exact Follows.foldlM steps.composes _ _ fun value item => steps.call ih context routine _
    | compile name body =>
      exact steps.bind (steps.silent (remarking_named _ _).silent) fun found => steps.compile ih context found body
    | setup name body =>
      exact steps.bind (steps.silent (remarking_named _ _).silent) fun found => steps.setup ih context found body
    | guarded name body =>
      exact steps.bind (steps.silent (remarking_named _ _).silent) fun found => steps.guarded ih context found body
    | command command => exact steps.silent (command.silent context.host context.thread)

end AllowsSteps

end CallCapture
