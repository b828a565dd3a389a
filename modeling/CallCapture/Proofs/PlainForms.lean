import CallCapture.Proofs.Calls

namespace CallCapture

namespace Form

variable (callable : String → Bool)

mutual

/-- The form is made of values, control flow, registrations and calls of some
routines: neither it nor a method that it registers for these reads or sets
the mode, a listener, a monitor or a capture. Forms that ask for the mode, or
for what was heard, are not plain, as their answers depend on it. -/
def isPlain : Form → Bool
  | literal _ | arg _ | args | fail _ | panic _ => true
  | list items | sequence items => arePlain items
  | branch condition yes no => isPlain condition && isPlain yes && isPlain no
  | add a b | multiply a b | addInts a b | same a b => isPlain a && isPlain b
  | length form | first form | typeOf form | attempt form | thread form | on _ form => isPlain form
  | register routine _ body => !callable routine || isPlain body
  | call routine items | callStatic routine items => callable routine && arePlain items
  | fold routine initial items => callable routine && (isPlain initial && isPlain items)
  | compile .. | setup .. | guarded .. | command _ => false

/-- All forms of a list are plain. An empty list has none that is not. -/
def arePlain : List Form → Bool
  | [] => true
  | form :: forms => isPlain form && arePlain forms

end

variable {callable}

theorem arePlain_iff {forms : List Form} :
    arePlain callable forms = true ↔ ∀ form ∈ forms, form.isPlain callable = true := by
  induction forms with
  | nil => simp [arePlain]
  | cons form forms ih => simp [arePlain, ih]

end Form

variable {callable : String → Bool}

namespace World

/-- All methods that are registered for the routines have plain bodies.
Methods of other routines may do anything, as no plain form calls them. -/
def IsPlain (callable : String → Bool) (world : World) : Prop :=
  ∀ id, ∀ method ∈ (world.hosts.get id).table.methods, callable method.routine = true →
    method.body.isPlain callable = true

/-- The names of hosts lead to the same hosts, and these have the same
methods. All else may differ: modes, depths, listeners, captures and what they
have recorded. Numbers that are given away next may differ as well. -/
structure Alike (world other : World) : Prop where
  names : other.names.hosts = world.names.hosts
  tables : ∀ id, (other.hosts.get id).table = (world.hosts.get id).table

theorem Alike.trans {world middle other : World} (first : world.Alike middle) (rest : middle.Alike other) :
    world.Alike other :=
  ⟨rest.names.trans first.names, fun id => (rest.tables id).trans (first.tables id)⟩

theorem Alike.symm {world other : World} (alike : world.Alike other) : other.Alike world :=
  ⟨alike.names.symm, fun id => (alike.tables id).symm⟩

theorem Alike.isPlain {world other : World} (alike : world.Alike other) (plain : world.IsPlain callable) :
    other.IsPlain callable := by
  intro id method member
  rw [alike.tables] at member
  exact plain id method member

theorem entering_alike (world : World) (id : HostId) : world.Alike (world.entering id) :=
  ⟨rfl, (world.entering_moved id).same Host.table rfl⟩

theorem leaving_alike (world : World) (id : HostId) : world.Alike (world.leaving id) :=
  ⟨rfl, (world.leaving_moved id).same Host.table rfl⟩

theorem telling_alike (world : World) (id : HostId) (signature : Signature) (listener : Option Listener) :
    world.Alike (world.telling id signature listener) :=
  ⟨congrArg Names.hosts (world.telling_moved id signature listener).names,
    world.telling_same id signature listener Host.table rfl⟩

theorem Alike.registering {world other : World} (alike : world.Alike other) (id : HostId) (method : Method Form) :
    (world.registering id method).Alike (other.registering id method) := by
  refine ⟨alike.names, fun target => ?_⟩
  rw [(world.registering_moved id method).hosts, (other.registering_moved id method).hosts]
  split
  · exact congrArg (MethodTable.register · method) (alike.tables id)
  · exact alike.tables target

/-- A method that is registered for one of the routines has to have a plain
body. Other routines are never called. -/
theorem IsPlain.registering {world : World} (methods : world.IsPlain callable) (id : HostId) {method : Method Form}
    (plain : callable method.routine = true → method.body.isPlain callable = true) :
    (world.registering id method).IsPlain callable := by
  intro target registered member
  rw [(world.registering_moved id method).hosts] at member
  split at member
  · rcases List.mem_append.mp member with old | new
    · exact methods id registered (List.mem_of_mem_filter old)
    · rw [List.mem_singleton.mp new]
      exact plain
  · exact methods target registered member

end World

namespace Act

variable {α β : Type} {related : World → World → Prop}

/-- In worlds that are related, two actions come to the same, and leave
worlds that are related. The relation may say as much as it likes of modes,
listeners and traces. -/
def Agree (related : World → World → Prop) (first second : Act α) : Prop :=
  ∀ world other, related world other →
    second.outcome other = first.outcome world ∧ related (first.after world) (second.after other)

theorem agree_pure (value : α) : Agree related (pure value : Act α) (pure value) := fun _ _ before => ⟨rfl, before⟩

theorem agree_throw (halt : Halt) : Agree related (throw halt : Act α) (throw halt) := fun _ _ before => ⟨rfl, before⟩

/-- Of what comes behind the first action, only what comes behind values
that it can have matters. Calls need this, as only a method that was found
has a plain body. -/
theorem Agree.bind_of {first second : Act α} {next further : α → Act β} (agree : Agree related first second)
    (rest : ∀ world other value, related world other → first.outcome world = .ok value →
      Agree related (next value) (further value)) : Agree related (first >>= next) (second >>= further) := by
  intro world other before
  obtain ⟨same, behind⟩ := agree world other before
  cases ended : first.outcome world with
  | error halt =>
    have also := same.trans ended
    rw [outcome_bind_error ended, outcome_bind_error also, after_bind_error ended, after_bind_error also]
    exact ⟨rfl, behind⟩
  | ok value =>
    have also := same.trans ended
    rw [outcome_bind_ok ended, outcome_bind_ok also, after_bind_ok ended, after_bind_ok also]
    exact rest world other value before ended _ _ behind

theorem Agree.bind {first second : Act α} {next further : α → Act β} (agree : Agree related first second)
    (rest : ∀ value, Agree related (next value) (further value)) :
    Agree related (first >>= next) (second >>= further) :=
  agree.bind_of fun _ _ value _ _ => rest value

theorem Agree.attempt {first second : Act α} (agree : Agree related first second) :
    Agree related (attempt first) (attempt second) := by
  intro world other before
  obtain ⟨same, behind⟩ := agree world other before
  rw [outcome_attempt, outcome_attempt, same]
  exact ⟨rfl, behind⟩

theorem Agree.mapM {first second : α → Act β} (items : List α)
    (each : ∀ item ∈ items, Agree related (first item) (second item)) :
    Agree related (items.mapM first) (items.mapM second) := by
  induction items with
  | nil => exact agree_pure []
  | cons item items ih =>
    obtain ⟨head, tail⟩ := List.forall_mem_cons.mp each
    rw [List.mapM_cons, List.mapM_cons]
    exact head.bind fun _ => (ih tail).bind fun _ => agree_pure _

theorem Agree.foldlM {first second : β → α → Act β} (items : List α) (initial : β)
    (each : ∀ state item, Agree related (first state item) (second state item)) :
    Agree related (items.foldlM first initial) (items.foldlM second initial) := by
  induction items generalizing initial with
  | nil => exact agree_pure initial
  | cons item items ih =>
    rw [List.foldlM_cons, List.foldlM_cons]
    exact (each initial item).bind ih

end Act

/-- Worlds that are alike, with plain methods only for the routines. All that
a plain form can see of the worlds is the same in both. -/
structure Twins (callable : String → Bool) (world other : World) : Prop where
  alike : world.Alike other
  plain : world.IsPlain callable

theorem Twins.move {world other later further : World} (twins : Twins callable world other)
    (first : world.Alike later) (second : other.Alike further) : Twins callable later further :=
  ⟨first.symm.trans (twins.alike.trans second), first.isPlain twins.plain⟩

theorem Twins.registering {world other : World} (twins : Twins callable world other) (id : HostId)
    {method : Method Form} (plain : callable method.routine = true → method.body.isPlain callable = true) :
    Twins callable (world.registering id method) (other.registering id method) :=
  ⟨twins.alike.registering id method, twins.plain.registering id plain⟩

/-- A relation of worlds, inside of some method bodies, that is kept by all
that a plain form does to them. Forms that have no part in how their calls are
compiled and who hears of them come to the same in both. To use it, one has to
say what becomes of the relation when a call is told, a body is entered or
left, a method is registered and a number is given away. -/
structure Simulation (callable : String → Bool) (related : List HostId → World → World → Prop) : Prop where
  twins : ∀ {frames world other}, related frames world other → Twins callable world other
  number : ∀ {frames world other}, related frames world other →
    related frames (Act.number.after world) (Act.number.after other)
  register : ∀ {frames world other} id method,
    (callable method.routine = true → method.body.isPlain callable = true) → related frames world other →
      related frames (world.registering id method) (other.registering id method)
  publish : ∀ {frames world other} id signature, related frames world other →
    related frames ((Act.publish id signature).after world) ((Act.publish id signature).after other)
  enter : ∀ {frames world other} id, related frames world other →
    related (id :: frames) (world.entering id) (other.entering id)
  leave : ∀ {frames world other} id, related (id :: frames) world other →
    related frames (world.leaving id) (other.leaving id)

namespace Simulation

variable {related : List HostId → World → World → Prop} {frames : List HostId}

open Act in
/-- A body that is entered in both worlds is left in both, however it ends. -/
theorem within (simulation : Simulation callable related) {id : HostId} {first second : Act Value}
    (agree : Agree (related (id :: frames)) first second) :
    Agree (related frames) (Act.within id first) (Act.within id second) := by
  intro world other before
  obtain ⟨same, behind⟩ := agree _ _ (simulation.enter id before)
  exact ⟨same, simulation.leave id behind⟩

/-- A call is brought to whoever listens, in each of the worlds. That this
differs is up to the relation. -/
theorem publishes (simulation : Simulation callable related) (id : HostId) (signature : Signature) :
    Act.Agree (related frames) (Act.publish id signature) (Act.publish id signature) := by
  intro world other before
  refine ⟨?_, simulation.publish id signature before⟩
  unfold Act.outcome
  rw [Act.publish_run, Act.publish_run]

theorem resolves (simulation : Simulation callable related) (id : HostId) (signature : Signature) :
    Act.Agree (related frames) (Act.resolve id signature) (Act.resolve id signature) := by
  intro world other before
  unfold Act.outcome Act.after
  rw [Act.resolve_run, Act.resolve_run, (simulation.twins before).alike.tables id]
  exact ⟨rfl, before⟩

theorem finds_host (simulation : Simulation callable related) (name : String) :
    Act.Agree (related frames) (Act.hostNamed name) (Act.hostNamed name) := by
  intro world other before
  unfold Act.hostNamed Act.outcome Act.after
  rw [Act.run_named, Act.run_named, (simulation.twins before).alike.names]
  exact ⟨rfl, before⟩

/-- What resolves is a method that is registered for the routine, so it is
plain. -/
theorem plain_of_resolve (simulation : Simulation callable related) {id : HostId} {signature : Signature}
    {method : Method Form} {world other : World} (before : related frames world other)
    (allowed : callable signature.routine = true)
    (resolved : (Act.resolve id signature).outcome world = .ok method) : method.body.isPlain callable = true := by
  unfold Act.outcome at resolved
  rw [Act.resolve_run] at resolved
  cases found : (world.hosts.get id).table.resolve? signature with
  | none =>
    rw [found] at resolved
    cases resolved
  | some chosen =>
    rw [found] at resolved
    cases resolved
    obtain ⟨member, fits, _⟩ := MethodTable.resolve?_spec found
    exact (simulation.twins before).plain id method member (fits.routine ▸ allowed)

/-- In worlds that are related, the evaluator does the same with plain
forms, whatever the threads are. The threads may differ, since a plain form
cannot ask for its own. -/
def AgreesOnPlain (callable : String → Bool) (related : List HostId → World → World → Prop) (eval : Evaluator) : Prop :=
  ∀ frames (context : Context) thread form, form.isPlain callable = true →
    Act.Agree (related frames) (eval context form) (eval { context with thread := thread } form)

variable {eval : Evaluator}

theorem calls (simulation : Simulation callable related) (agrees : AgreesOnPlain callable related eval)
    (context : Context) (thread : ThreadId) {routine : String} (allowed : callable routine = true) (args : List Value) :
    Act.Agree (related frames) (context.call eval routine args)
      (({ context with thread := thread } : Context).call eval routine args) := by
  refine (simulation.resolves _ _).bind_of fun world other method before resolved => ?_
  have plain := simulation.plain_of_resolve before allowed resolved
  refine (simulation.publishes _ _).bind fun _ => simulation.within ?_
  exact agrees _ { context with args := args } thread method.body plain

/-- A call that is bound when it is compiled agrees with itself as well.
Nobody hears of it. -/
theorem callsStatic (simulation : Simulation callable related) (agrees : AgreesOnPlain callable related eval)
    (context : Context) (thread : ThreadId) {routine : String} (allowed : callable routine = true) (args : List Value) :
    Act.Agree (related frames) (context.callStatic eval routine args)
      (({ context with thread := thread } : Context).callStatic eval routine args) := by
  refine (simulation.resolves _ _).bind_of fun world other method before resolved => ?_
  have plain := simulation.plain_of_resolve before allowed resolved
  exact simulation.within (agrees _ { context with args := args } thread method.body plain)

end Simulation

open Simulation Act in
/-- A plain form comes to the same in worlds that are related, and leaves
worlds that are. By induction on the fuel, one case for each kind of plain
form. What is left open by the relation, such as who hears of what, is
decided by it alone. -/
theorem Simulation.eval {related : List HostId → World → World → Prop} (simulation : Simulation callable related)
    (fuel : Nat) : AgreesOnPlain callable related (eval fuel) := by
  induction fuel with
  | zero => exact fun _ _ _ _ _ => agree_throw _
  | succ fuel ih =>
    intro frames context thread form plain
    have items {forms : List Form} (plain : Form.arePlain callable forms = true) :
        Agree (related frames) (forms.mapM (CallCapture.eval fuel context))
          (forms.mapM (CallCapture.eval fuel { context with thread := thread })) :=
      Agree.mapM forms fun form member => ih frames context thread form (Form.arePlain_iff.mp plain form member)
    unfold CallCapture.eval
    cases form with
    | literal value => exact agree_pure _
    | arg index => exact agree_pure _
    | args => exact agree_pure _
    | list forms => exact (items plain).bind fun _ => agree_pure _
    | sequence forms => exact (items plain).bind fun _ => agree_pure _
    | branch condition yes no =>
      simp only [Form.isPlain, Bool.and_eq_true] at plain
      refine (ih frames context thread condition plain.1.1).bind fun answer => ?_
      split
      · exact ih frames context thread yes plain.1.2
      · exact ih frames context thread no plain.2
    | add a b | multiply a b | addInts a b | same a b =>
      simp only [Form.isPlain, Bool.and_eq_true] at plain
      exact (ih frames context thread a plain.1).bind fun _ => (ih frames context thread b plain.2).bind fun _ =>
        agree_pure _
    | length form | first form | typeOf form =>
      exact (ih frames context thread form plain).bind fun _ => agree_pure _
    | fail message => exact agree_throw _
    | panic message => exact agree_throw _
    | attempt form =>
      refine (Agree.attempt (ih frames context thread form plain)).bind fun result => ?_
      split
      · exact agree_pure _
      · exact agree_pure _
      · exact agree_pure _
      · exact agree_throw _
    | thread form =>
      intro world other before
      exact ih frames { context with thread := ⟨world.fresh⟩ } ⟨other.fresh⟩ form plain _ _ (simulation.number before)
    | on host form =>
      exact (simulation.finds_host host).bind fun found => ih frames { context with host := found } thread form plain
    | register routine pattern body =>
      have bodies : callable routine = true → body.isPlain callable = true := fun allowed => by
        simpa only [Form.isPlain, allowed, Bool.not_true, Bool.false_or] using plain
      exact fun world other before => ⟨rfl, simulation.register context.host ⟨routine, pattern, body⟩ bodies before⟩
    | call routine args =>
      obtain ⟨allowed, plain⟩ := Bool.and_eq_true_iff.mp plain
      exact (items plain).bind fun args => simulation.calls ih context thread allowed args
    | callStatic routine args =>
      obtain ⟨allowed, plain⟩ := Bool.and_eq_true_iff.mp plain
      exact (items plain).bind fun args => simulation.callsStatic ih context thread allowed args
    | fold routine initial forms =>
      simp only [Form.isPlain, Bool.and_eq_true] at plain
      obtain ⟨allowed, first, rest⟩ := plain
      refine (ih frames context thread initial first).bind fun initial => ?_
      refine (ih frames context thread forms rest).bind fun found => ?_
      exact Agree.foldlM _ _ fun value item => simulation.calls ih context thread allowed _
    | compile precompiler body => cases plain
    | setup precompiler body => cases plain
    | guarded precompiler body => cases plain
    | command command => cases plain

namespace Session

/-- Counts down through static calls and stops at the bottom; the panic is
caught, and so is an error on a thread. -/
def computing : Form :=
  .sequence [.register "stop" [] (.panic "stop"),
    .register "down" ["Int64"] (.branch (.arg 0)
      (.callStatic "down" [.addInts (.arg 0) (.literal (.int (-1)))]) (.call "stop" [])),
    .list [.attempt (.call "down" [.literal (.int 2)]), .attempt (.thread (.call "down" []))]]

/-- The routines that it calls. Each has a method of its own that is plain. -/
def computingCalls (routine : String) : Bool := routine = "stop" || routine = "down"

end Session

end CallCapture
