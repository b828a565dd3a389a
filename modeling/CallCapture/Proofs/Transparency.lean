import CallCapture.Proofs.Outermost
import CallCapture.Proofs.PlainForms

namespace CallCapture

theorem World.telling_sinks (world : World) (id : HostId) (signature : Signature) (listener : Option Listener) :
    (world.telling id signature listener).sinks = world.sinks ∧
      (world.telling id signature listener).files = world.files := by
  rcases listener with _ | _ | collector <;> exact ⟨rfl, rfl⟩

variable {callable : String → Bool}

/-- Twins, the second of which has some sinks and files. This is kept apart
from the relation of the hosts, as captures do change sinks. -/
structure Beside (callable : String → Bool) (sinks : Store SinkId Sink) (files : Files) (world other : World) :
    Prop where
  twins : Twins callable world other
  sinks : other.sinks = sinks
  files : other.files = files

namespace Beside

variable {sinks : Store SinkId Sink} {files : Files} {world other : World}

/-- Whatever a plain form does, twins stay twins, and the sinks and files stay
as they are. A plain form calls no sink and writes no file. -/
theorem simulation (sinks : Store SinkId Sink) (files : Files) :
    Simulation callable fun _ => Beside callable sinks files where
  twins beside := beside.twins
  number beside := ⟨beside.twins.move ⟨rfl, fun _ => rfl⟩ ⟨rfl, fun _ => rfl⟩, beside.sinks, beside.files⟩
  register id _ plain beside := ⟨beside.twins.registering id plain, beside.sinks, beside.files⟩
  publish id signature beside := by
    unfold Act.after
    rw [Act.publish_run, Act.publish_run]
    obtain ⟨sinks, files⟩ := World.telling_sinks _ id signature _
    exact ⟨beside.twins.move (World.telling_alike ..) (World.telling_alike ..), sinks.trans beside.sinks,
      files.trans beside.files⟩
  enter id beside :=
    ⟨beside.twins.move (World.entering_alike _ id) (World.entering_alike _ id), beside.sinks, beside.files⟩
  leave id beside :=
    ⟨beside.twins.move (World.leaving_alike _ id) (World.leaving_alike _ id), beside.sinks, beside.files⟩

/-- So a plain form comes to the same in both, on whatever thread it is
evaluated. -/
theorem eval (beside : Beside callable sinks files world other) (fuel : Nat) (context : Context) (thread : ThreadId)
    {form : Form} (plain : form.isPlain callable = true) :
    (eval fuel { context with thread := thread } form).outcome other = (eval fuel context form).outcome world ∧
      Beside callable sinks files ((eval fuel context form).after world)
        ((eval fuel { context with thread := thread } form).after other) :=
  (simulation sinks files).eval fuel [] context thread form plain world other beside

end Beside

namespace Act

theorem beginLevel_sinks (id : HostId) (unit : String) (verbose : Bool) (thread : ThreadId) (world : World) :
    ((beginLevel id unit verbose thread).after world).sinks = world.sinks ∧
      ((beginLevel id unit verbose thread).after world).files = world.files := by
  unfold beginLevel
  rw [after_host_bind]
  rcases (world.hosts.get id).beginCapture? thread verbose with _ | ⟨_ | depth, changed⟩
  · exact ⟨rfl, rfl⟩
  · exact ⟨rfl, rfl⟩
  · exact ⟨rfl, rfl⟩

end Act

open Act in
/-- Beginning a capture makes no difference to plain code: methods are the
same, and neither sinks nor files are touched. -/
theorem Precompiler.beginCapture_alike {precompiler : Precompiler} {world : World} {flags : Flags} {guard : Guard}
    {thread : ThreadId} (gate : precompiler.gate.outcome world = .ok (some flags))
    (begun : (precompiler.beginCapture thread).outcome world = .ok (some guard)) :
    guard.precompiler = precompiler ∧ world.Alike ((precompiler.beginCapture thread).after world) ∧
      ((precompiler.beginCapture thread).after world).sinks = world.sinks ∧
      ((precompiler.beginCapture thread).after world).files = world.files := by
  have begins := precompiler.beginCapture_begins thread world
  have untouched : ((precompiler.beginCapture thread).after world).sinks = world.sinks ∧
      ((precompiler.beginCapture thread).after world).files = world.files := by
    obtain ⟨asked, gated⟩ := gate_open gate
    obtain ⟨sinks, files⟩ := beginLevel_sinks precompiler.monitor precompiler.unit flags.verbose thread
      (precompiler.gate.after world)
    rw [gated] at sinks files
    unfold beginCapture
    rw [after_bind_ok gate, gated]
    dsimp only
    rw [after_bind]
    split
    · exact ⟨sinks, files⟩
    · exact ⟨sinks, files⟩
  rw [begun] at begins
  revert begins untouched
  generalize (precompiler.beginCapture thread).after world = later
  rintro begins ⟨sinks, files⟩
  cases begins with
  | opened own said opens =>
    refine ⟨own, ⟨congrArg Names.hosts (opens.names.trans said.names), fun id => ?_⟩, sinks, files⟩
    rw [opens.table, said.hosts]

theorem Guard.ClosesQuietly.table {guard : Guard} {world later : World} (closes : guard.ClosesQuietly world later)
    (id : HostId) : (later.hosts.get id).table = (world.hosts.get id).table := by
  obtain ⟨_, _, _, done, said⟩ := closes
  rw [said.hosts, done.table]

open Act in
/-- Whatever was recorded, nothing goes wrong at the end of a capture whose
sink takes it. That it takes every list of signatures is asked of it, as the
list is not known before. -/
theorem Guard.disarm_accepted {guard : Guard} {world : World} (accepts : ∀ signatures,
      sinkAnswer guard.precompiler.sink ⟨guard.precompiler.artifact, signatures⟩ world = .ok ()) :
    ∃ report, guard.disarm.outcome world = .ok report := by
  cases claimed : (world.hosts.get guard.precompiler.monitor).armed with
  | some armed =>
    rw [disarm_outcome claimed]
    unfold finishing
    dsimp only
    rw [accepts]
    split
    · exact ⟨_, rfl⟩
    · exact ⟨_, rfl⟩
  | none =>
    obtain ⟨ended, _⟩ := endLevel_ended guard.precompiler.monitor world
    obtain ⟨released, _⟩ := unlock_released guard.precompiler.engine guard.previous
      ((endLevel guard.precompiler.monitor).after world)
    have unarmed : (world.hosts.get guard.precompiler.monitor).endCapture.1 = .unarmed := by
      unfold Host.endCapture
      rw [claimed]
    rw [guard.disarm_eq, outcome_bind_ok ended, outcome_bind_ok released, unarmed]
    exact ⟨none, rfl⟩

namespace Context

open Act

/-- What a captured workload comes to, by what its body comes to. An answer
that says that it ran encloses the value; failures come out as they are. -/
def workloadOutcome (outcome : Except Halt Value) : Except Halt Value :=
  outcome.map fun value => .array [.text "ran", value]

/-- If disarming succeeds, a workload comes to what it would have come to. An
error of the sink is the only thing that could take its place. -/
theorem finishWorkload_outcome {guard : Guard} {world : World} {report : Option Report}
    (disarmed : guard.disarm.outcome world = .ok report) (outcome : Except Halt Value) :
    (finishWorkload guard outcome).outcome world = workloadOutcome outcome := by
  have attempted : (attempt guard.disarm).outcome world = .ok (.ok report) := by
    rw [outcome_attempt, disarmed]
  have dropped : guard.drop.outcome world = .ok () := by
    unfold Guard.drop
    rw [outcome_bind_ok attempted]
    rfl
  unfold finishWorkload
  match outcome with
  | .ok value =>
    have discarded : (discard guard.disarm).outcome world = .ok () := by
      rw [outcome_discard, disarmed]
      rfl
    rw [outcome_bind_ok discarded]
    rfl
  | .error (.error error) =>
    rw [outcome_bind_ok attempted]
    rfl
  | .error (.panic _) | .error (.unbound _) | .error .exhausted =>
    rw [outcome_bind_ok dropped]
    rfl

/-- A captured workload runs its body behind the opening of the capture, and
ends with the capture. -/
theorem compile_run {eval : Evaluator} {context : Context} {precompiler : Precompiler} {world : World} {guard : Guard}
    (begun : (precompiler.beginCapture context.thread).outcome world = .ok (some guard)) (body : Form) :
    let opened := (precompiler.beginCapture context.thread).after world
    (context.compile eval precompiler body).run world =
      (finishWorkload guard ((eval context body).outcome opened)).run ((eval context body).after opened) := by
  have ran : (precompiler.beginCapture context.thread).run world =
      (.ok (some guard), (precompiler.beginCapture context.thread).after world) := Prod.ext begun rfl
  unfold compile
  rw [run_bind, ran]
  rfl

end Context

open Act in
/-- A capture adds nothing to what its workload comes to, and nothing to the
methods that it leaves. Its gate is open, its host is not held against the
thread, and its sink takes what it is given. -/
theorem eval_compile_plain {world : World} {context : Context} {name : String} {precompiler : Precompiler}
    {flags : Flags} {form : Form} (methods : world.IsPlain callable) (plain : form.isPlain callable = true)
    (known : world.names.precompilers.lookup name = some precompiler)
    (gate : precompiler.gate.outcome world = .ok (some flags))
    (own : ¬ (world.hosts.get precompiler.monitor).HeldAgainst context.thread)
    (accepts : ∀ signatures, sinkAnswer precompiler.sink ⟨precompiler.artifact, signatures⟩ world = .ok ())
    (fuel : Nat) :
    (eval (fuel + 1) context (.compile name form)).outcome world =
        Context.workloadOutcome ((eval fuel context form).outcome world) ∧
      ∀ id, (((eval (fuel + 1) context (.compile name form)).after world).hosts.get id).table =
        (((eval fuel context form).after world).hosts.get id).table := by
  obtain ⟨guard, begun⟩ := Precompiler.beginCapture_accepted gate own
  obtain ⟨rfl, alike, sinks, files⟩ := Precompiler.beginCapture_alike gate begun
  have ran := (eval_compile_run known fuel context form).trans (Context.compile_run begun form)
  generalize (guard.precompiler.beginCapture context.thread).after world = opened at alike sinks files ran
  have beside : Beside callable world.sinks world.files world opened := ⟨⟨alike, methods⟩, sinks, files⟩
  obtain ⟨same, behind⟩ := beside.eval fuel context context.thread plain
  obtain ⟨report, disarmed⟩ := guard.disarm_accepted fun signatures =>
    (sinkAnswer_of_eq behind.sinks behind.files).trans (accepts signatures)
  constructor
  · have finished := Context.finishWorkload_outcome disarmed ((eval fuel context form).outcome opened)
    exact (congrArg Prod.fst ran).trans (finished.trans (congrArg Context.workloadOutcome same))
  · intro id
    have closes := Context.finishWorkload_closesQuietly guard ((eval fuel context form).outcome opened)
      ((eval fuel context form).after opened)
    have left : (eval (fuel + 1) context (.compile name form)).after world = _ := congrArg Prod.snd ran
    rw [left]
    exact (closes.table id).trans (behind.twins.alike.tables id)

/-- What a plain form comes to, and the methods that it leaves, are the same
in all worlds with the same methods, whatever the modes, depths, listeners and
captures are; and they are the same within a capture. The methods are plain as
far as the form can call them. -/
theorem capturing_changes_nothing {callable : String → Bool} {world : World} {form : Form}
    (methods : world.IsPlain callable) (plain : form.isPlain callable = true) (fuel : Nat) (context : Context) :
    (∀ other thread, world.Alike other →
      (eval fuel { context with thread := thread } form).outcome other = (eval fuel context form).outcome world ∧
        ((eval fuel context form).after world).Alike
          ((eval fuel { context with thread := thread } form).after other)) ∧
      ∀ name precompiler flags, world.names.precompilers.lookup name = some precompiler →
        precompiler.gate.outcome world = .ok (some flags) →
        ¬ (world.hosts.get precompiler.monitor).HeldAgainst context.thread →
        (∀ signatures, Act.sinkAnswer precompiler.sink ⟨precompiler.artifact, signatures⟩ world = .ok ()) →
          (eval (fuel + 1) context (.compile name form)).outcome world =
              Context.workloadOutcome ((eval fuel context form).outcome world) ∧
            ∀ id, (((eval (fuel + 1) context (.compile name form)).after world).hosts.get id).table =
              (((eval fuel context form).after world).hosts.get id).table := by
  constructor
  · intro other thread alike
    have before : Beside callable other.sinks other.files world other := ⟨⟨alike, methods⟩, rfl, rfl⟩
    obtain ⟨same, behind⟩ := before.eval fuel context thread plain
    exact ⟨same, behind.twins.alike⟩
  · intro name precompiler flags known gate own accepts
    exact eval_compile_plain methods plain known gate own accepts fuel

namespace Session

/-- What the computing form comes to: a panic that was caught, and an
error. -/
def computed : Value :=
  .array [.array [.text "panic", .text "stop"], .ofError (.noMatchingMethod ⟨"down", []⟩)]

/-- The first host is forced, three bodies deep, and a collector listens.
Nothing of this has an effect on what plain code comes to. -/
def disturbed : World :=
  { prepared with
    hosts := prepared.hosts.put firstHost { mode := .forced, depth := 3, listener := some (.collector ⟨7⟩) } }

end Session

open Session in
/-- A form with panics and a thread of its own comes to the same on a host in
disorder, and within a capture. -/
theorem capturing_changes_nothing_computing :
    (eval 11 context computing).outcome disturbed = .ok computed ∧
      (eval 12 context (.compile "unit" computing)).outcome prepared = .ok (.array [.text "ran", computed]) := by
  have methods : prepared.IsPlain computingCalls := fun id method member => nomatch member
  have alike : prepared.Alike disturbed := by
    refine ⟨rfl, fun id => (congrArg Host.table (Store.get_put ..)).trans ?_⟩
    split
    · rfl
    · rfl
  have direct : (eval 11 context computing).outcome prepared = .ok computed := by rfl
  have own : ¬ (prepared.hosts.get preparedUnit.monitor).HeldAgainst mainThread := by
    rintro ⟨armed, claimed, _⟩
    cases claimed
  obtain ⟨anywhere, captured⟩ := @capturing_changes_nothing computingCalls prepared computing methods rfl 11 context
  obtain ⟨same, _⟩ := anywhere disturbed mainThread alike
  obtain ⟨ran, _⟩ := captured "unit" preparedUnit {} prepared_known rfl own fun _ => rfl
  rw [direct] at same ran
  exact ⟨same, ran⟩

end CallCapture
