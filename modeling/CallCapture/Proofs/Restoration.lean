import CallCapture.Proofs.Levels
import CallCapture.Proofs.Reach

namespace CallCapture

/-- The host behind the opening of an outermost capture that compiles
on its own host: claimed, with an empty set and the recorder
listening, and forced. -/
theorem Opens.get_unarmed {guard : Guard} {world opened : World} {opening : List Occurrence}
    (opens : Opens guard world opening opened) (single : guard.precompiler.engine = guard.precompiler.monitor)
    (free : (world.hosts.get guard.precompiler.monitor).armed = none) :
    guard.nesting = .outermost ∧ ∃ owner verbose,
      opened.hosts.get guard.precompiler.monitor = { world.hosts.get guard.precompiler.monitor with
        listener := some .recorder
        armed := some { owner := owner, verbose := verbose }
        mode := .forced } := by
  cases opens with
  | @intro claimed _ thread verbose changed begun claim previous lock =>
    obtain ⟨outermost, rfl⟩ := Host.beginCapture?_unarmed free begun
    refine ⟨outermost, thread, verbose, ?_⟩
    have forced := lock.get_self
    rw [single, claim.get_self] at forced
    exact forced

theorem Opens.nesting_armed {guard : Guard} {world opened : World} {opening : List Occurrence} {armed : Armed}
    (opens : Opens guard world opening opened)
    (claimed : (world.hosts.get guard.precompiler.monitor).armed = some armed) :
    guard.nesting = .nested (armed.depth + 1) := by
  cases opens with
  | intro begun => exact (Host.beginCapture?_armed claimed begun).1

/-- The capture with the last level lets go of its host and hands over what
was recorded. The listener is taken away, whoever it was by then. -/
theorem Closes.get_last {guard : Guard} {world later : World} {closing : List Occurrence} {armed : Armed}
    (closes : Closes guard world closing later) (single : guard.precompiler.engine = guard.precompiler.monitor)
    (claimed : (world.hosts.get guard.precompiler.monitor).armed = some armed) (last : armed.depth = 0) :
    later.hosts.get guard.precompiler.monitor = { world.hosts.get guard.precompiler.monitor with
      listener := none
      armed := none
      mode := guard.previous } := by
  obtain ⟨ended, released, _, ends, unlock, _, _, hosts, _⟩ := closes.emission
  have restored := unlock.get_self
  rw [single, ends.get_self, Host.endCapture_last claimed last] at restored
  rw [hosts, restored]
  rfl

namespace Context

/-- How a captured workload runs: without a capture it does not; else it runs
behind the opening of the capture, and the capture is closed behind it. What
is done in between is a change of worlds, so that any body may stand there. -/
inductive Captures (context : Context) (precompiler : Precompiler) (workload : World → World) (world : World) :
    World → Prop
  | unopened {remarks later} :
      (∀ guard, (precompiler.beginCapture context.thread).outcome world ≠ .ok (some guard)) →
      Remarks world remarks later → Captures context precompiler workload world later
  | opened {guard remarks gated opening opened later} :
      (precompiler.beginCapture context.thread).run world = (.ok (some guard), opened) →
      guard.precompiler = precompiler → Remarks world remarks gated → Opens guard gated opening opened →
      guard.ClosesQuietly (workload opened) later → Captures context precompiler workload world later

open Act in
/-- A workload that is compiled runs so, whatever it comes to. There is no
other way through it, also where the body panics. -/
theorem compile_captures (context : Context) (eval : Evaluator) (precompiler : Precompiler) (body : Form)
    (world : World) : context.Captures precompiler (eval context body).after world
      ((context.compile eval precompiler body).after world) := by
  obtain ⟨outcome, opened, ended, begins⟩ := precompiler.beginCapture_run context.thread world
  have found : (precompiler.beginCapture context.thread).outcome world = outcome := congrArg Prod.fst ended
  unfold compile
  rw [after, run_bind, ended]
  cases begins with
  | closed said => exact .unopened (by rw [found]; simp) said
  | halted said => exact .unopened (by rw [found]; simp) said
  | @opened guard _ _ _ _ same said opens =>
    exact .opened ended same said opens (finishWorkload_closesQuietly guard _ _)

end Context

theorem eval_compile_run {name : String} {precompiler : Precompiler} {world : World}
    (known : world.names.precompilers.lookup name = some precompiler) (fuel : Nat) (context : Context) (body : Form) :
    (eval (fuel + 1) context (.compile name body)).run world =
      (context.compile (eval fuel) precompiler body).run world :=
  Act.run_precompilerNamed_bind known _

theorem eval_compile {name : String} {precompiler : Precompiler} {world : World}
    (known : world.names.precompilers.lookup name = some precompiler) (fuel : Nat) (context : Context) (body : Form) :
    (eval (fuel + 1) context (.compile name body)).after world =
      (context.compile (eval fuel) precompiler body).after world :=
  congrArg Prod.snd (eval_compile_run known fuel context body)

/-- A host is as it was before; if it was claimed, the recorder may
have heard more. What it has recorded belongs to the capture around
it, if there is one. -/
structure Host.Restored (before after : Host Form) : Prop where
  mode : after.mode = before.mode
  depth : after.depth = before.depth
  free : before.armed = none → after.armed = none
  claimed : ∀ armed, before.armed = some armed →
    ∃ signatures, after.armed = some { armed with recorded := armed.recorded.recordAll signatures }

theorem Host.Restored.refl (host : Host Form) : host.Restored host :=
  ⟨rfl, rfl, id, fun _ claimed => ⟨[], claimed⟩⟩

/-- A capture around anything that lets go in reverse order of the captures of
its host that it takes into the hand. The host of the monitor is the engine as
well, as it is for every precompiler that names no monitor of its own. -/
theorem Opens.restored {guard : Guard} {world opened closed later : World} {opening inside closing : List Occurrence}
    (opens : Opens guard world opening opened) (course : Course opened inside closed)
    (closes : Closes guard closed closing later) (single : guard.precompiler.engine = guard.precompiler.monitor)
    (made : world.Made guard.precompiler.monitor)
    (orderly : LetsGoInOrder (capturesHandled guard.precompiler.monitor inside))
    (byHand : .monitorUsed guard.precompiler.monitor ∉ inside) :
    (world.hosts.get guard.precompiler.monitor).Restored (later.hosts.get guard.precompiler.monitor) ∧
      (guard.nesting = .outermost → (later.hosts.get guard.precompiler.monitor).listener = none) := by
  have openedMade : opened.Made guard.precompiler.monitor := Nat.lt_of_lt_of_eq made opens.fresh.symm
  have mode : (later.hosts.get guard.precompiler.monitor).mode = (world.hosts.get guard.precompiler.monitor).mode := by
    rw [← single, closes.mode, opens.previous]
  have depth : (later.hosts.get guard.precompiler.monitor).depth =
      (world.hosts.get guard.precompiler.monitor).depth := by
    rw [closes.depth, course.depth openedMade, opens.depth]
  cases claimed : (world.hosts.get guard.precompiler.monitor).armed with
  | none =>
    obtain ⟨_, owner, verbose, begun⟩ := opens.get_unarmed single claimed
    have lowest : 0 = 0 + ([] : List Holding).length := rfl
    obtain ⟨signatures, ended⟩ := course.levels openedMade byHand orderly (congrArg Host.armed begun) lowest
    have last := closes.get_last single ended rfl
    refine ⟨⟨mode, depth, fun _ => congrArg Host.armed last, fun armed other => ?_⟩, fun _ => ?_⟩
    · rw [claimed] at other
      cases other
    · exact congrArg Host.listener last
  | some armed =>
    have raised := congrArg Host.armed (opens.get_armed claimed)
    have own : guard.levelOn guard.precompiler.monitor = 1 := if_pos rfl
    obtain ⟨signatures, ended⟩ := course.levels openedMade byHand orderly raised rfl
    have below := congrArg Host.armed (closes.get_nested ended rfl)
    refine ⟨⟨mode, depth, fun free => ?_, fun other same => ?_⟩, fun outermost => ?_⟩
    · rw [claimed] at free
      cases free
    · rw [claimed] at same
      cases same
      exact ⟨signatures, below⟩
    · rw [opens.nesting_armed claimed] at outermost
      cases outermost

/-- Every end of a captured workload restores the host: the mode, the depth of
method bodies and the owner are behind it what they were before. The workload
may do anything that lets go in reverse order of the captures of the host that
it takes into the hand, and leaves the levels of the host to captures. -/
theorem compile_restores {context : Context} {world : World} {name : String} {precompiler : Precompiler}
    (reached : Reached context world) (known : world.names.precompilers.lookup name = some precompiler)
    (single : precompiler.engine = precompiler.monitor) (fuel : Nat) (body : Form)
    (orderly : ∀ guard opened, (precompiler.beginCapture context.thread).run world = (.ok (some guard), opened) →
      LetsGoInOrder (capturesHandled precompiler.monitor (happenings fuel context body opened)) ∧
        .monitorUsed precompiler.monitor ∉ happenings fuel context body opened) :
    let after := ((eval (fuel + 1) context (.compile name body)).after world).hosts.get precompiler.monitor
    (world.hosts.get precompiler.monitor).Restored after ∧
      ∀ guard opened, (precompiler.beginCapture context.thread).run world = (.ok (some guard), opened) →
        guard.nesting = .outermost → after.listener = none := by
  intro after
  have captures := context.compile_captures (eval fuel) precompiler body world
  rw [← eval_compile known] at captures
  cases captures with
  | unopened never said =>
    have same : after = world.hosts.get precompiler.monitor := congrArg (Store.get · precompiler.monitor) said.hosts
    refine ⟨by rw [same]; exact .refl _, fun guard opened begun => ?_⟩
    exact absurd (congrArg Prod.fst begun) (never guard)
  | @opened guard remarks gated opening opened _ begun own said opens closes =>
    obtain ⟨closing, closed, behind, ends, quiet⟩ := closes
    subst own
    have made : gated.Made guard.precompiler.monitor := Nat.lt_of_lt_of_eq (reached.made known).1 said.fresh.symm
    obtain ⟨ordered, byHand⟩ := orderly guard opened begun
    have restored := opens.restored (eval_course fuel context body opened) ends single made ordered byHand
    rw [said.hosts, ← quiet.hosts] at restored
    refine ⟨restored.1, fun other also again => ?_⟩
    rw [begun] at again
    cases again
    exact restored.2

namespace Session

/-- Changes the mode, is refused on another thread, and stops within
a nested capture. -/
def unsteady : Form :=
  .sequence [.command (.setMode .adaptive), .command (.lock "lock" "h"),
    .attempt (.thread (.compile "unit" (.literal .null))), .command (.unlock "lock"),
    .compile "unit" (.panic "stop")]

end Session

open Session in
theorem compile_restores_unsteady :
    (prepared.hosts.get firstHost).Restored
        (((eval 6 context (.compile "unit" unsteady)).after prepared).hosts.get firstHost) ∧
      (((eval 6 context (.compile "unit" unsteady)).after prepared).hosts.get firstHost).listener = none := by
  have restores := compile_restores prepared_reached prepared_known rfl 5 unsteady fun guard opened begun => by
    cases begun
    exact ⟨by decide +kernel, by decide +kernel⟩
  exact ⟨restores.1, restores.2 _ _ rfl rfl⟩

end CallCapture
