import CallCapture.Proofs.Evaluation
import CallCapture.Session.Run

namespace CallCapture

/-- What happens while a form is evaluated. It is what is added to the trace,
in the order in which it happened. -/
def happenings (fuel : Nat) (context : Context) (form : Form) (world : World) : List Occurrence :=
  world.since ((eval fuel context form).after world)

/-- What happens in an evaluation is a course between the two worlds. All that
is proved of courses is proved of evaluations by it. -/
theorem eval_course (fuel : Nat) (context : Context) (form : Form) (world : World) :
    Course world (happenings fuel context form world) ((eval fuel context form).after world) := by
  obtain ⟨occurrences, course⟩ := eval_proceeds fuel context form world
  rwa [happenings, World.since_eq course.trace]

namespace World

/-- A method body is entered. -/
def entering (world : World) (id : HostId) : World :=
  { world with
    hosts := world.hosts.put id (world.hosts.get id).enter
    trace := .entered id :: world.trace }

end World

/-- The contexts and worlds in which a form can be evaluated: between
the steps of a session, behind what was evaluated before in the same
context, and inside threads, hosts, method bodies, captures and setups.
How long the top directory of its files is can be anything. A claim
about a form in such a world and context is one about every session,
wherever the form stands in it. -/
inductive Reached : Context → World → Prop
  | start topLength : Reached Session.context (Session.initial topLength)
  | step {context world} : Reached context world → Reached Session.context { world with trace := [] }
  | behind {context world} fuel form : Reached context world →
      Reached context ((eval fuel context form).after world)
  | inThread {context world} : Reached context world →
      Reached { context with thread := ⟨world.fresh⟩ } (Act.number.after world)
  | onHost {context world name id} : Reached context world → world.names.hosts.lookup name = some id →
      Reached { context with host := id } world
  | inMethod {context world signature method} args : Reached context world →
      (world.hosts.get context.host).table.resolve? signature = some method →
      Reached { context with args := args } (((Act.publish context.host signature).after world).entering context.host)
  | inStaticMethod {context world signature method} args : Reached context world →
      (world.hosts.get context.host).table.resolve? signature = some method →
      Reached { context with args := args } (world.entering context.host)
  | inCapture {context world name precompiler guard} : Reached context world →
      world.names.precompilers.lookup name = some precompiler →
      (precompiler.beginCapture context.thread).outcome world = .ok (some guard) →
      Reached context ((precompiler.beginCapture context.thread).after world)
  | inSetup {context world name precompiler flags} : Reached context world →
      world.names.precompilers.lookup name = some precompiler → precompiler.gate.outcome world = .ok (some flags) →
      Reached context (precompiler.gate.after world)

theorem Act.Proceeds.namesMade {α : Type} {action : Act α} {world : World} (proceeds : Proceeds action)
    (made : world.NamesMade) : (action.after world).NamesMade := by
  obtain ⟨occurrences, course⟩ := proceeds world
  exact course.namesMade made

theorem Precompiler.Begins.namesMade {precompiler : Precompiler} {world later : World}
    {outcome : Except Halt (Option Guard)} (begins : precompiler.Begins world outcome later)
    (made : world.NamesMade) : later.NamesMade := by
  cases begins with
  | closed said => exact said.quiet.names made
  | halted said => exact said.quiet.names made
  | opened _ said opens => exact (said.quiet.names made).of_eq opens.names opens.fresh

/-- No name leads to a host that has not been made. So no host can be made
behind the back of a name. -/
theorem Reached.namesMade {context : Context} {world : World} (reached : Reached context world) :
    world.NamesMade := by
  induction reached with
  | start =>
    refine ⟨fun entry member => ?_, fun _ member => (nomatch member), fun _ member => (nomatch member)⟩
    rw [List.mem_singleton.mp member]
    exact Nat.zero_lt_one
  | step _ ih => exact ih.of_eq rfl rfl
  | behind fuel form _ ih => exact (eval_proceeds fuel _ form).namesMade ih
  | inThread _ ih => exact Act.still_number.proceeds.namesMade ih
  | onHost _ _ ih => exact ih
  | inMethod args _ _ ih => exact ((Act.proceeds_publish _ _).namesMade ih).of_eq rfl rfl
  | inStaticMethod args _ _ ih => exact ih.of_eq rfl rfl
  | @inCapture context world _ precompiler _ _ _ _ ih =>
    exact (precompiler.beginCapture_begins context.thread world).namesMade ih
  | @inSetup _ _ _ precompiler _ _ _ _ ih => exact precompiler.remarking_gate.proceeds.namesMade ih

theorem Reached.made {context : Context} {world : World} {name : String} {precompiler : Precompiler}
    (reached : Reached context world) (known : world.names.precompilers.lookup name = some precompiler) :
    world.Made precompiler.monitor ∧ world.Made precompiler.engine :=
  reached.namesMade.precompilers _ (mem_of_lookup known)

namespace Session

/-- Makes a precompiler over the first host, with a sink that keeps
what it is given. -/
def preparing : Form :=
  .sequence [.command (.newFlags "flags"), .command (.newSink "sink" .recording),
    .command (.newPrecompiler "unit" ⟨"unit", .fixed .building, "flags", "h", "sink", none⟩)]

/-- The world behind these preparations. It is where examples of
captures start from. -/
def prepared : World := (eval 2 context preparing).after (initial 0)

/-- The precompiler that is made so. Its flags are those of the session's
first flags, with no preferences behind them. -/
def preparedUnit : Precompiler := ⟨"unit", "unit", .fixed .building, ⟨1⟩, firstHost, firstHost, ⟨2⟩⟩

theorem prepared_reached : Reached context prepared := .behind 2 preparing (.start 0)

theorem prepared_known : prepared.names.precompilers.lookup "unit" = some preparedUnit := by rfl

end Session

end CallCapture
