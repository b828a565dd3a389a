import CallCapture.Proofs.Asides
import CallCapture.Proofs.Calls

namespace CallCapture

namespace World

/-- The frames are the bodies around what is evaluated, innermost first: each
host has counted its own. The host itself only has the count. Several frames
may be of one host, which then has counted them all. -/
structure Nested (world : World) (frames : List HostId) : Prop where
  depth : ∀ id, (world.hosts.get id).depth = frames.count id
  made : ∀ id ∈ frames, world.Made id
  names : world.NamesMade

/-- Who is to hear of a call: whoever listens to its host, if the host is
forced or one of its bodies is around the call. The list of frames is that
of the forms around the call, so nothing of the host is asked but its mode
and its listener. -/
def hearer (world : World) (frames : List HostId) (id : HostId) : Option Listener :=
  if (world.hosts.get id).mode = .forced ∨ id ∈ frames then (world.hosts.get id).listener else none

end World

/-- What may happen inside of some frames. A call is told to whom it concerns
before its body is entered, and the body is left however it ends; besides
calls nobody hears anything. It is the course of an evaluation as seen from
the calls, with captures and commands as something that is done aside. -/
inductive Runs : List HostId → World → List Occurrence → World → Prop
  | aside {frames world occurrences later} : Aside world occurrences later → Runs frames world occurrences later
  | next {frames world first middle rest later} : Runs frames world first middle → Runs frames middle rest later →
      Runs frames world (first ++ rest) later
  | call {frames world id signature method inside closed} : world.Made id →
      (world.hosts.get id).table.resolve? signature = some method →
      Runs (id :: frames) ((world.telling id signature (world.hearer frames id)).entering id) inside closed →
      Runs frames world
        (world.tellings id signature (world.hearer frames id) ++ ([.entered id] ++ inside ++ [.left id]))
        (closed.leaving id)
  | callStatic {frames world id signature method inside closed} : world.Made id →
      (world.hosts.get id).table.resolve? signature = some method →
      Runs (id :: frames) (world.entering id) inside closed →
      Runs frames world ([.entered id] ++ inside ++ [.left id]) (closed.leaving id)

namespace World.Nested

variable {world later : World} {frames : List HostId} {id : HostId}

theorem moved {changed : Host Form} {occurrences : List Occurrence} (nested : world.Nested frames)
    (moved : Moved world id changed occurrences later) (depth : changed.depth = (world.hosts.get id).depth) :
    later.Nested frames where
  depth other := (moved.same Host.depth depth other).trans (nested.depth other)
  made other member := Nat.lt_of_lt_of_eq (nested.made other member) moved.fresh.symm
  names := nested.names.of_eq moved.names moved.fresh

theorem aside {occurrences : List Occurrence} (nested : world.Nested frames)
    (aside : Aside world occurrences later) : later.Nested frames where
  depth other := by
    by_cases made : world.Made other
    · rw [aside.depth other made, nested.depth other]
    · -- a host that is made here has no body among the frames
      have outside : other ∉ frames := fun member => made (nested.made other member)
      have none : frames.count other = 0 := List.count_eq_zero_of_not_mem outside
      rcases aside.added other made with same | new
      · rw [same, nested.depth other]
      · rw [new, none]
  made other member := Nat.lt_of_lt_of_le (nested.made other member) aside.fresh
  names := aside.names nested.names

theorem entering (nested : world.Nested frames) (made : world.Made id) : (world.entering id).Nested (id :: frames) where
  depth other := by
    rw [(world.entering_moved id).hosts]
    by_cases same : other = id
    · rw [if_pos same, same, List.count_cons_self, ← nested.depth id]
      rfl
    · rw [if_neg same, List.count_cons_of_ne (Ne.symm same), nested.depth other]
  made other member := by
    rcases List.mem_cons.mp member with rfl | outer
    · exact made
    · exact nested.made other outer
  names := nested.names.of_eq rfl rfl

/-- The body that is left is the innermost frame, and those around
it are left over. -/
theorem leaving (nested : world.Nested (id :: frames)) : (world.leaving id).Nested frames where
  depth other := by
    have before := nested.depth other
    rw [(world.leaving_moved id).hosts]
    by_cases same : other = id
    · subst same
      rw [List.count_cons_self] at before
      rw [if_pos rfl]
      unfold Host.leave
      rw [before, Nat.add_sub_cancel]
    · rw [if_neg same, before, List.count_cons_of_ne (Ne.symm same)]
  made other member := nested.made other (List.mem_cons_of_mem _ member)
  names := nested.names.of_eq rfl rfl

theorem telling (nested : world.Nested frames) (id : HostId) (signature : Signature) (listener : Option Listener) :
    (world.telling id signature listener).Nested frames := by
  refine nested.moved (world.telling_moved id signature listener) ?_
  rcases listener with _ | _ | collector <;> rfl

/-- The counter of a host says whether one of its bodies is among the frames.
Only this has to be known of the counter. -/
theorem compiled_iff (nested : world.Nested frames) :
    (world.hosts.get id).isCompiled = true ↔ (world.hosts.get id).mode = .forced ∨ id ∈ frames := by
  unfold Host.isCompiled
  rw [Bool.or_eq_true, beq_iff_eq, decide_eq_true_eq, nested.depth id, List.count_pos_iff]

/-- What decides on the host whether its listener hears of a call, its mode
and its counter, decides as the frames do. -/
theorem hearer (nested : world.Nested frames) :
    (if (world.hosts.get id).isCompiled then (world.hosts.get id).listener else none) = world.hearer frames id := by
  unfold World.hearer
  exact if_congr nested.compiled_iff rfl rfl

end World.Nested

namespace Runs

variable {frames : List HostId} {world later : World} {occurrences : List Occurrence}

theorem trace (runs : Runs frames world occurrences later) : later.trace = occurrences.reverse ++ world.trace := by
  induction runs with
  | aside aside => exact aside.trace
  | next _ _ before behind => rw [behind, before, List.reverse_append, List.append_assoc]
  | @call frames world id signature _ inside closed _ _ _ during =>
    have told := (world.telling_moved id signature (world.hearer frames id)).trace
    have entered := ((world.telling id signature (world.hearer frames id)).entering_moved id).trace
    rw [(closed.leaving_moved id).trace, during, entered, told]
    simp only [List.reverse_append, List.append_assoc]
  | @callStatic _ world id _ _ inside closed _ _ _ during =>
    rw [(closed.leaving_moved id).trace, during, (world.entering_moved id).trace]
    simp only [List.reverse_append, List.append_assoc]

theorem fresh_le (runs : Runs frames world occurrences later) : world.fresh ≤ later.fresh := by
  induction runs with
  | aside aside => exact aside.fresh
  | next _ _ before behind => exact Nat.le_trans before behind
  | @call frames world id signature _ _ _ _ _ _ during =>
    have told := (world.telling_moved id signature (world.hearer frames id)).fresh
    exact Nat.le_trans (Nat.le_of_eq told.symm) during
  | callStatic _ _ _ during => exact during

/-- Whatever happens inside of some frames, they are the frames
also behind it. A body that fails is left like any other, so no
frame is ever left over. -/
theorem nested (runs : Runs frames world occurrences later) (nested : world.Nested frames) : later.Nested frames := by
  induction runs with
  | aside aside => exact nested.aside aside
  | next _ _ before behind => exact behind (before nested)
  | call made _ _ during =>
    refine (during ((nested.telling _ _ _).entering ?_)).leaving
    exact Nat.lt_of_lt_of_eq made (World.telling_moved ..).fresh.symm
  | callStatic made _ _ during => exact (during (nested.entering made)).leaving

end Runs

/-- What is done on a host inside of some frames. The frames and the host are
those of the context; that the world fits them is the assumption. -/
abbrev Framed (frames : List HostId) (here : HostId) (world : World) (occurrences : List Occurrence) (later : World) :
    Prop :=
  world.Nested frames → world.Made here → Runs frames world occurrences later

theorem Framed.composes (frames : List HostId) (here : HostId) : Composes (Framed frames here) where
  nil world _ _ := .aside (Aside.composes.nil world)
  append before behind nested made := by
    have first := before nested made
    exact first.next (behind (first.nested nested) (Nat.lt_of_lt_of_le made first.fresh_le))

/-- Where the frames are not those of the world, there is nothing to show. -/
theorem framed_of {frames : List HostId} {here : HostId} {world later : World}
    (runs : world.Nested frames → world.Made here → ∃ occurrences, Runs frames world occurrences later) :
    ∃ occurrences, Framed frames here world occurrences later := by
  by_cases both : world.Nested frames ∧ world.Made here
  · obtain ⟨occurrences, done⟩ := runs both.1 both.2
    exact ⟨occurrences, fun _ _ => done⟩
  · exact ⟨[], fun nested made => absurd ⟨nested, made⟩ both⟩

namespace Act

variable {α β : Type} {frames : List HostId} {here : HostId}

/-- The action keeps to the frames in which it is done. -/
abbrev Keeps (frames : List HostId) (here : HostId) (action : Act α) : Prop := Follows (Framed frames here) action

theorem Silent.keeps {action : Act α} (silent : Silent action) : Keeps frames here action :=
  silent.mono fun aside _ _ => .aside aside

/-- Two actions that keep to the frames do so together, as the frames are the
same behind the first one. -/
theorem Keeps.bind {action : Act α} {next : α → Act β} (first : Keeps frames here action)
    (rest : ∀ value, Keeps frames here (next value)) : Keeps frames here (action >>= next) :=
  Follows.bind (Framed.composes frames here) first rest

theorem keeps_pure (value : α) : Keeps frames here (pure value : Act α) := follows_pure (Framed.composes ..) value

theorem keeps_throw (halt : Halt) : Keeps frames here (throw halt : Act α) := follows_throw (Framed.composes ..) halt

end Act

namespace Context

open Act

variable {eval : Evaluator} {frames : List HostId}

/-- The evaluator keeps to any frames. -/
def KeepsFrames (eval : Evaluator) : Prop :=
  ∀ frames (context : Context) form, Keeps frames context.host (eval context form)

theorem call_run {context : Context} {routine : String} {args : List Value} {method : Method Form} {world : World}
    (nested : world.Nested frames)
    (resolved : (world.hosts.get context.host).table.resolve? (.ofCall routine args) = some method) :
    let entered := (world.telling context.host (.ofCall routine args) (world.hearer frames context.host)).entering
      context.host
    (context.call eval routine args).run world =
      ((eval { context with args := args } method.body).outcome entered,
        ((eval { context with args := args } method.body).after entered).leaving context.host) := by
  rw [context.call_resolved eval resolved, run_bind, publish_run, nested.hearer]
  exact within_run ..

/-- A call keeps to the frames around it, and its body to these with its
own host in front. -/
theorem keeps_call (keeps : KeepsFrames eval) (context : Context) (routine : String) (args : List Value) :
    Keeps frames context.host (context.call eval routine args) := by
  refine fun world => framed_of fun nested made => ?_
  cases resolved : (world.hosts.get context.host).table.resolve? (.ofCall routine args) with
  | none =>
    have same := congrArg Prod.snd (context.call_unresolved eval resolved)
    exact ⟨[], by unfold after; rw [same]; exact .aside (Aside.composes.nil world)⟩
  | some method =>
    have told := nested.telling context.host (.ofCall routine args) (world.hearer frames context.host)
    have known := Nat.lt_of_lt_of_eq made
      (world.telling_moved context.host (.ofCall routine args) (world.hearer frames context.host)).fresh.symm
    obtain ⟨inside, body⟩ := keeps (context.host :: frames) { context with args := args } method.body
      ((world.telling context.host (.ofCall routine args) (world.hearer frames context.host)).entering context.host)
    have ran := congrArg Prod.snd (@call_run eval _ _ _ _ _ _ nested resolved)
    exact ⟨_, by unfold after; rw [ran]; exact .call made resolved (body (told.entering known) known)⟩

/-- A call that is bound when it is compiled is told to nobody. Its body has a
frame all the same. -/
theorem callStatic_run {context : Context} {routine : String} {args : List Value} {method : Method Form} {world : World}
    (resolved : (world.hosts.get context.host).table.resolve? (.ofCall routine args) = some method) :
    let entered := world.entering context.host
    (context.callStatic eval routine args).run world =
      ((eval { context with args := args } method.body).outcome entered,
        ((eval { context with args := args } method.body).after entered).leaving context.host) := by
  rw [context.callStatic_resolved eval resolved]
  exact within_run ..

theorem keeps_callStatic (keeps : KeepsFrames eval) (context : Context) (routine : String) (args : List Value) :
    Keeps frames context.host (context.callStatic eval routine args) := by
  refine fun world => framed_of fun nested made => ?_
  cases resolved : (world.hosts.get context.host).table.resolve? (.ofCall routine args) with
  | none =>
    have same := congrArg Prod.snd (context.callStatic_unresolved eval resolved)
    exact ⟨[], by unfold after; rw [same]; exact .aside (Aside.composes.nil world)⟩
  | some method =>
    obtain ⟨inside, body⟩ := keeps (context.host :: frames) { context with args := args } method.body
      (world.entering context.host)
    have ran := congrArg Prod.snd (@callStatic_run eval _ _ _ _ _ resolved)
    exact ⟨_, by unfold after; rw [ran]; exact .callStatic made resolved (body (nested.entering made) made)⟩

theorem keeps_compile (keeps : KeepsFrames eval) (context : Context) (precompiler : Precompiler) (body : Form) :
    Keeps frames context.host (context.compile eval precompiler body) := by
  refine (precompiler.silent_beginCapture _).keeps.bind fun opened => ?_
  cases opened with
  | none => exact keeps_pure _
  | some guard =>
    refine Keeps.bind (Follows.attempt (keeps frames context body)) fun outcome => ?_
    exact (silent_finishWorkload guard outcome).keeps

theorem keeps_setup (keeps : KeepsFrames eval) (context : Context) (precompiler : Precompiler) (body : Form) :
    Keeps frames context.host (context.setup eval precompiler body) := by
  refine precompiler.remarking_gate.silent.keeps.bind fun answer => ?_
  cases answer with
  | none => exact keeps_pure _
  | some _ => exact (keeps frames context body).bind fun _ => keeps_pure _

theorem keeps_guarded (keeps : KeepsFrames eval) (context : Context) (precompiler : Precompiler) (body : Form) :
    Keeps frames context.host (context.guarded eval precompiler body) := by
  refine (precompiler.silent_beginCapture _).keeps.bind fun opened => ?_
  cases opened with
  | none => exact keeps_pure _
  | some guard =>
    refine Keeps.bind (Follows.attempt (keeps frames context body)) fun outcome => ?_
    split
    · exact guard.silent_disarm.keeps.bind fun _ => keeps_pure _
    · exact guard.silent_drop.keeps.bind fun _ => keeps_throw _

end Context

open Act Context in
/-- Whatever is evaluated keeps to the frames around it. By induction on the
fuel, one case for each kind of form. Method bodies are evaluated with one
frame more, which is why the frames are not fixed. -/
theorem eval_keeps (fuel : Nat) : KeepsFrames (eval fuel) := by
  induction fuel with
  | zero => exact fun _ _ _ => keeps_throw _
  | succ fuel ih =>
    intro frames context form
    have items (forms : List Form) : Keeps frames context.host (forms.mapM (eval fuel context)) :=
      Follows.mapM (Framed.composes ..) forms (ih frames context)
    unfold eval
    cases form with
    | literal value => exact keeps_pure _
    | arg index => exact keeps_pure _
    | args => exact keeps_pure _
    | list forms => exact (items forms).bind fun _ => keeps_pure _
    | sequence forms => exact (items forms).bind fun _ => keeps_pure _
    | branch condition yes no =>
      refine (ih frames context condition).bind fun answer => ?_
      split
      · exact ih frames context yes
      · exact ih frames context no
    | add a b | multiply a b | addInts a b | same a b =>
      exact (ih frames context a).bind fun _ => (ih frames context b).bind fun _ => keeps_pure _
    | length form | first form | typeOf form => exact (ih frames context form).bind fun _ => keeps_pure _
    | fail message => exact keeps_throw _
    | panic message => exact keeps_throw _
    | attempt form =>
      refine Keeps.bind (Follows.attempt (ih frames context form)) fun result => ?_
      split
      · exact keeps_pure _
      · exact keeps_pure _
      · exact keeps_pure _
      · exact keeps_throw _
    | thread form =>
      exact still_number.silent.keeps.bind fun number => ih frames { context with thread := ⟨number⟩ } form
    | on host form =>
      refine fun world => framed_of fun nested made => ?_
      unfold hostNamed after
      rw [run_bind, run_named]
      cases found : world.names.hosts.lookup host with
      | none => exact ⟨[], .aside (Aside.composes.nil world)⟩
      | some id =>
        obtain ⟨occurrences, framed⟩ := ih frames { context with host := id } form world
        exact ⟨occurrences, framed nested (nested.names.hosts _ (mem_of_lookup found))⟩
    | register routine pattern body =>
      refine Silent.keeps fun world => ⟨[], ?_⟩
      exact (world.registering_moved context.host ⟨routine, pattern, body⟩).aside rfl (by simp) (.of_armed rfl rfl)
    | call routine args => exact (items args).bind fun args => keeps_call ih context routine args
    | callStatic routine args => exact (items args).bind fun args => keeps_callStatic ih context routine args
    | fold routine initial forms =>
      refine (ih frames context initial).bind fun initial => (ih frames context forms).bind fun found => ?_
      exact Follows.foldlM (Framed.composes ..) _ _ fun value item => keeps_call ih context routine _
    | compile precompiler body =>
      exact (remarking_named _ _).silent.keeps.bind fun found => keeps_compile ih context found body
    | setup precompiler body =>
      exact (remarking_named _ _).silent.keeps.bind fun found => keeps_setup ih context found body
    | guarded precompiler body =>
      exact (remarking_named _ _).silent.keeps.bind fun found => keeps_guarded ih context found body
    | command command => exact (command.silent context.host context.thread).keeps

theorem eval_runs {world : World} {frames : List HostId} {context : Context} (nested : world.Nested frames)
    (made : world.Made context.host) (fuel : Nat) (form : Form) :
    Runs frames world (happenings fuel context form world) ((eval fuel context form).after world) := by
  obtain ⟨occurrences, framed⟩ := eval_keeps fuel frames context form world
  have runs := framed nested made
  rwa [happenings, World.since_eq runs.trace]

namespace Session

/-- The world behind the forms of a session. -/
def worldBehind (topLength : Nat) (forms : List Form) : World :=
  forms.foldl (fun world form => (step world form).2) (initial topLength)

/-- Between the forms of a session no body is entered and not left, on any
host. So the frames around the forms of a session are none, whatever was
evaluated before. -/
theorem worldBehind_nested (topLength : Nat) (forms : List Form) :
    (worldBehind topLength forms).Nested [] ∧ (worldBehind topLength forms).Made firstHost := by
  have behind (world : World) (before : world.Nested [] ∧ world.Made firstHost) :
      (forms.foldl (fun world form => (step world form).2) world).Nested [] ∧
        (forms.foldl (fun world form => (step world form).2) world).Made firstHost := by
    induction forms generalizing world with
    | nil => exact before
    | cons form forms ih =>
      obtain ⟨nested, made⟩ := before
      have start : { world with trace := [] }.Nested [] := ⟨nested.depth, nested.made, nested.names.of_eq rfl rfl⟩
      have runs := @eval_runs _ [] context start made maxDepth form
      exact ih _ ⟨runs.nested start, Nat.lt_of_lt_of_le made runs.fresh_le⟩
  have start : (initial topLength).Nested [] :=
    ⟨fun _ => rfl, fun _ member => (nomatch member), (Reached.start topLength).namesMade⟩
  exact behind _ ⟨start, Nat.zero_lt_one⟩

end Session

end CallCapture
