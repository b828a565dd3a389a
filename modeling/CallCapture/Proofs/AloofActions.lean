import CallCapture.Proofs.Calls
import CallCapture.Proofs.Reentrancy

namespace CallCapture

/-- The flags, the counts of answers and the environment are replaced. All
that a gate asks for is among these three, so two worlds that differ only in
them differ for gates alone. -/
def World.switched (world : World) (flags : Store FlagsId Flags) (asked : Store OracleId Nat)
    (environment : Environment) : World :=
  { world with flags := flags, asked := asked, environment := environment }

namespace Act

variable {α β : Type}

/-- The action neither looks at the flags, the counts of answers and the
environment nor changes them: these can be replaced before it or behind it.
Whatever a scope does of its own behind its gate is such an action. To be
aloof is more than to give the same answer with other flags: the flags
themselves come out of the action as they went in. -/
def Aloof (action : Act α) : Prop :=
  ∀ world flags asked environment, action.run (world.switched flags asked environment) =
    (action.outcome world, (action.after world).switched flags asked environment)

theorem aloof_pure (value : α) : Aloof (pure value : Act α) := fun _ _ _ _ => rfl

theorem aloof_throw (halt : Halt) : Aloof (throw halt : Act α) := fun _ _ _ _ => rfl

theorem aloof_note (occurrence : Occurrence) : Aloof (note occurrence) := fun _ _ _ _ => rfl

theorem aloof_number : Aloof number := fun _ _ _ _ => rfl

theorem aloof_rename (change : Names → Names) : Aloof (rename change) := fun _ _ _ _ => rfl

theorem aloof_host (id : HostId) : Aloof (host id) := fun _ _ _ _ => rfl

theorem aloof_setHost (id : HostId) (changed : Host Form) : Aloof (setHost id changed) := fun _ _ _ _ => rfl

theorem aloof_sink (id : SinkId) : Aloof (sink id) := fun _ _ _ _ => rfl

theorem aloof_setSink (id : SinkId) (changed : Sink) : Aloof (setSink id changed) := fun _ _ _ _ => rfl

/-- Two actions that have nothing to do with the flags have nothing to do with
them together, as what the second one is does not depend on them either. -/
theorem Aloof.bind {action : Act α} {next : α → Act β} (first : Aloof action) (rest : ∀ value, Aloof (next value)) :
    Aloof (action >>= next) := by
  intro world flags asked environment
  rw [run_bind, first]
  cases ended : action.outcome world with
  | error halt =>
    rw [outcome_bind_error ended, after_bind_error ended]
  | ok value =>
    rw [outcome_bind_ok ended, after_bind_ok ended]
    exact rest value _ _ _ _

theorem Aloof.attempt {action : Act α} (first : Aloof action) : Aloof (attempt action) := by
  intro world flags asked environment
  have ran := first world flags asked environment
  have attempted : (Act.attempt action).run (world.switched flags asked environment) =
    (.ok (action.run (world.switched flags asked environment)).1,
      (action.run (world.switched flags asked environment)).2) := rfl
  rw [attempted, ran]
  rfl

theorem Aloof.discard {action : Act α} (first : Aloof action) : Aloof (discard action) := by
  intro world flags asked environment
  refine Prod.ext ?_ ?_
  · refine (outcome_discard action _).trans ?_
    rw [outcome_discard, outcome, first]
  · refine (after_discard action _).trans ?_
    rw [after_discard, after, first]

theorem aloof_get_bind {next : World → Act α}
    (same : ∀ world flags asked environment, next (world.switched flags asked environment) = next world)
    (rest : ∀ world, Aloof (next world)) : Aloof (get >>= next) := by
  intro world flags asked environment
  rw [run_get_bind, same]
  exact rest world world flags asked environment

theorem aloof_orFail (result : Except Error α) : Aloof (orFail result) := by
  cases result with
  | ok value => exact aloof_pure value
  | error error => exact aloof_throw _

theorem aloof_noteAll (occurrences : List Occurrence) : Aloof (noteAll occurrences) := by
  induction occurrences with
  | nil => exact aloof_pure ()
  | cons occurrence rest ih => exact (aloof_note occurrence).bind fun _ => ih

theorem aloof_named (find : Names → List (String × α)) (name : String) : Aloof (named find name) := by
  refine aloof_get_bind (fun _ _ _ _ => rfl) fun world => ?_
  split
  · exact aloof_pure _
  · exact aloof_throw _

/-- A sink is called with what was recorded, and knows nothing of flags.
So an emission cannot be held up by an opt-out that comes after the
capture has begun. -/
theorem aloof_handOver (source : Option HostId) (id : SinkId) (emission : Emission) :
    Aloof (handOver source id emission) := by
  refine (aloof_note _).bind fun _ => (aloof_sink id).bind fun before => ?_
  refine aloof_get_bind (fun _ _ _ _ => rfl) fun world => ?_
  refine Aloof.bind (fun _ _ _ _ => rfl) fun _ => (aloof_orFail _).bind fun grown => ?_
  refine (aloof_setSink id _).bind fun _ => ?_
  split
  · exact aloof_pure ()
  · dsimp only
    split
    · exact (aloof_note _).bind fun _ => aloof_note _
    · exact aloof_note _

/-- To claim a host takes the verbosity as it is given, and looks at no
flags. A level that was opened verbosely stays verbose, whatever
becomes of the flags. -/
theorem aloof_beginLevel (id : HostId) (unit : String) (verbose : Bool) (thread : ThreadId) :
    Aloof (beginLevel id unit verbose thread) := by
  refine (aloof_host id).bind fun found => ?_
  rcases found.beginCapture? thread verbose with _ | ⟨_ | depth, changed⟩
  · exact (aloof_note _).bind fun _ => aloof_throw _
  · exact (aloof_setHost id _).bind fun _ => (aloof_note _).bind fun _ => aloof_pure _
  · exact (aloof_setHost id _).bind fun _ => (aloof_note _).bind fun _ => aloof_pure _

theorem aloof_endLevel (id : HostId) : Aloof (endLevel id) := by
  refine (aloof_host id).bind fun found => ?_
  rcases found.endCapture with ⟨_ | _ | recorded, changed⟩ <;>
    exact (aloof_setHost id _).bind fun _ => (aloof_note _).bind fun _ => aloof_pure _

theorem aloof_lock (id : HostId) : Aloof (lock id) :=
  (aloof_host id).bind fun _ => (aloof_setHost id _).bind fun _ => (aloof_note _).bind fun _ => aloof_pure _

theorem aloof_unlock (id : HostId) (previous : CompileMode) : Aloof (unlock id previous) :=
  (aloof_host id).bind fun _ => (aloof_setHost id _).bind fun _ => aloof_note _

/-- A call is brought to its listener without a look at the flags: what a
verbose recorder does was settled when the host was claimed. -/
theorem aloof_publish (id : HostId) (signature : Signature) : Aloof (publish id signature) := by
  intro world flags asked environment
  unfold outcome after
  rw [publish_run, publish_run]
  refine Prod.ext rfl ?_
  change (world.switched flags asked environment).telling id signature
    (if (world.hosts.get id).isCompiled then (world.hosts.get id).listener else none) = _
  rcases (if (world.hosts.get id).isCompiled then (world.hosts.get id).listener else none) with _ | _ | collector <;>
    rfl

theorem aloof_resolve (id : HostId) (signature : Signature) : Aloof (resolve id signature) := by
  refine (aloof_host id).bind fun found => ?_
  split
  · exact aloof_pure _
  · exact aloof_throw _

end Act

open Act

namespace Guard

/-- A guard that is disarmed emits without asking its gate again. A unit that
opts out while its capture is open is still handed over. -/
theorem aloof_disarm (guard : Guard) : Aloof guard.disarm := by
  refine (aloof_endLevel _).bind fun ending => (aloof_unlock _ _).bind fun _ => ?_
  split
  · exact Aloof.bind ((aloof_note _).bind fun _ => aloof_handOver _ _ _) fun _ =>
      (aloof_note _).bind fun _ => aloof_pure _
  · exact aloof_pure _

theorem aloof_drop (guard : Guard) : Aloof guard.drop := by
  refine Aloof.bind (aloof_disarm guard).attempt fun result => ?_
  split
  · exact aloof_note _
  · exact aloof_throw _
  · exact aloof_pure _

end Guard

theorem Context.aloof_finishWorkload (guard : Guard) (outcome : Except Halt Value) :
    Aloof (finishWorkload guard outcome) := by
  unfold finishWorkload
  split
  · exact guard.aloof_disarm.discard.bind fun _ => aloof_pure _
  · refine Aloof.bind guard.aloof_disarm.attempt fun result => ?_
    dsimp only
    split
    · exact (aloof_note _).bind fun _ => aloof_throw _
    · exact (aloof_note _).bind fun _ => aloof_throw _
    · exact aloof_throw _
  · exact guard.aloof_drop.bind fun _ => aloof_throw _

namespace Precompiler

variable {precompiler : Precompiler} {world : World}

/-- What is done for a capture behind its open gate. Of the flags only the
verbosity is taken along. The same is done for a workload, for a guard and for
a capture under a name; they differ in how they end. -/
def claim (precompiler : Precompiler) (verbose : Bool) (thread : ThreadId) : Act Guard := do
  let nesting ← Act.beginLevel precompiler.monitor precompiler.unit verbose thread
  let previous ← Act.lock precompiler.engine
  return ⟨precompiler, previous, nesting⟩

theorem aloof_claim (precompiler : Precompiler) (verbose : Bool) (thread : ThreadId) :
    Aloof (precompiler.claim verbose thread) :=
  (aloof_beginLevel _ _ _ _).bind fun _ => (aloof_lock _).bind fun _ => aloof_pure _

/-- A capture whose gate is open has asked once, and takes along what the
flags said of verbosity then. What comes behind is written as the rest of an
action that knows no flags, so that it can be shown to be aloof. -/
theorem beginCapture_bind_open {α : Type} (opened : precompiler.isOpen world = true) (thread : ThreadId)
    (next : Option Guard → Act α) : (precompiler.beginCapture thread >>= next).run world =
      (precompiler.claim (world.flags.get precompiler.flags).verbose thread >>= fun guard => next (some guard)).run
        (precompiler.sampled world) := by
  unfold beginCapture
  rw [bind_assoc, run_bind, gate_run, if_pos opened]
  dsimp only
  rw [claim]
  simp only [bind_assoc, pure_bind]

/-- A capture whose gate is closed has asked, and that is all that it
has done. No host, sink or file is touched, and the body of a
workload is not run. -/
theorem beginCapture_run_closed (closed : precompiler.isOpen world = false) (thread : ThreadId) :
    (precompiler.beginCapture thread).run world = (.ok none, precompiler.sampled world) := by
  unfold beginCapture
  rw [run_bind, gate_run, closed]
  rfl

end Precompiler

namespace Context

variable {precompiler : Precompiler} {world : World} {context : Context}

/-- A scope that only sets up runs its body behind the open gate, and its
answer encloses that of the body. -/
theorem setup_run_open (opened : precompiler.isOpen world = true) (eval : Evaluator) (body : Form) :
    (context.setup eval precompiler body).run world =
      ((fun value => .array [.text "ran", value]) <$> eval context body).run (precompiler.sampled world) := by
  unfold setup
  rw [run_bind, Precompiler.gate_run, if_pos opened, map_eq_pure_bind]

theorem setup_run_closed (closed : precompiler.isOpen world = false) (eval : Evaluator) (body : Form) :
    (context.setup eval precompiler body).run world = (.ok (.text "gated"), precompiler.sampled world) := by
  unfold setup
  rw [run_bind, Precompiler.gate_run, closed]
  rfl

theorem compile_run_closed (closed : precompiler.isOpen world = false) (eval : Evaluator) (body : Form) :
    (context.compile eval precompiler body).run world = (.ok (.text "gated"), precompiler.sampled world) := by
  unfold compile
  rw [run_bind, Precompiler.beginCapture_run_closed closed]
  rfl

theorem guarded_run_closed (closed : precompiler.isOpen world = false) (eval : Evaluator) (body : Form) :
    (context.guarded eval precompiler body).run world = (.ok (.text "gated"), precompiler.sampled world) := by
  unfold guarded
  rw [run_bind, Precompiler.beginCapture_run_closed closed]
  rfl

end Context

end CallCapture
