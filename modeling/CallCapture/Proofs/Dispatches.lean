import CallCapture.Proofs.Frames
import CallCapture.Proofs.PlainForms

namespace CallCapture

/-- How many bodies of a host are open behind an occurrence, if so many
are open before it. -/
def Occurrence.bodies (id : HostId) (before : Nat) : Occurrence → Nat
  | entered host => if host = id then before + 1 else before
  | left host => if host = id then before - 1 else before
  | _ => before

/-- How many bodies of a host are open behind several occurrences. The depth
that the host had before them is given. -/
def bodiesOn (id : HostId) (before : Nat) (occurrences : List Occurrence) : Nat :=
  occurrences.foldl (Occurrence.bodies id) before

/-- The call that an occurrence brings to the listener of a host,
with the number of bodies of the host around it. The number is read
off the occurrences, not off the host, so that it can be compared
with what the host says. -/
def Occurrence.deliveries (id : HostId) (before : Nat) : Occurrence → List (Signature × Nat)
  | delivered host signature => if host = id then [(signature, before)] else []
  | _ => []

/-- All calls that are brought to the listener of a host, each with the number
of bodies of the host around it. It is read off the trace of a run, so it is
known also where nobody collects. -/
def deliveriesOn (id : HostId) : (before : Nat) → List Occurrence → List (Signature × Nat)
  | _, [] => []
  | before, occurrence :: rest => occurrence.deliveries id before ++ deliveriesOn id (occurrence.bodies id before) rest

theorem bodiesOn_append (id : HostId) (before : Nat) (first rest : List Occurrence) :
    bodiesOn id before (first ++ rest) = bodiesOn id (bodiesOn id before first) rest :=
  List.foldl_append

/-- What is heard of in two stretches is heard of in the first and then in the
second, which begins with the bodies that the first leaves open. -/
theorem deliveriesOn_append (id : HostId) (before : Nat) (first rest : List Occurrence) :
    deliveriesOn id before (first ++ rest) =
      deliveriesOn id before first ++ deliveriesOn id (bodiesOn id before first) rest := by
  induction first generalizing before with
  | nil => rfl
  | cons occurrence first ih =>
    rw [List.cons_append, deliveriesOn, ih, deliveriesOn, List.append_assoc]
    rfl

namespace World

variable {id : HostId}

theorem bodiesOn_tellings (world : World) (host : HostId) (signature : Signature) (listener : Option Listener)
    (before : Nat) : bodiesOn id before (world.tellings host signature listener) = before := by
  rcases listener with _ | _ | collector
  · rfl
  · unfold tellings
    dsimp only
    split
    · rfl
    · rfl
  · rfl

/-- A call is brought to the listener once, if there is one for
it. Whether there is one was decided before, by the mode and the
bodies around the call. -/
theorem deliveriesOn_tellings (world : World) (host : HostId) (signature : Signature) (listener : Option Listener)
    (before : Nat) : deliveriesOn id before (world.tellings host signature listener) =
      if listener.isSome then Occurrence.deliveries id before (.delivered host signature) else [] := by
  rcases listener with _ | _ | collector
  · rfl
  · have nothing : deliveriesOn id before
        (if (world.hosts.get host).reports signature then [.captured host signature] else []) = [] := by
      split
      · rfl
      · rfl
    exact (congrArg (Occurrence.deliveries id before (.delivered host signature) ++ ·) nothing).trans
      (List.append_nil _)
  · exact List.append_nil _

end World

/-- What is done to a host by a step of a plain form: at most its depth
changes, and as the step shows. The mode and the listener stay, since a plain
form sets neither. -/
structure Passes (id : HostId) (frames inner : List HostId) (world : World) (occurrences : List Occurrence)
    (later : World) : Prop where
  trace : later.trace = occurrences.reverse ++ world.trace
  mode : (later.hosts.get id).mode = (world.hosts.get id).mode
  listener : (later.hosts.get id).listener = (world.hosts.get id).listener
  depth : (world.hosts.get id).depth = frames.count id → (later.hosts.get id).depth = inner.count id
  bodies : bodiesOn id (frames.count id) occurrences = inner.count id

namespace World

variable (world : World) (id host : HostId) (frames : List HostId)

theorem registering_passes (method : Method Form) :
    Passes id frames frames world [] (world.registering host method) where
  trace := rfl
  mode := (world.registering_moved host method).same Host.mode rfl id
  listener := (world.registering_moved host method).same Host.listener rfl id
  depth before := ((world.registering_moved host method).same Host.depth rfl id).trans before
  bodies := rfl

theorem telling_passes (signature : Signature) (listener : Option Listener) :
    Passes id frames frames world (world.tellings host signature listener)
      (world.telling host signature listener) where
  trace := rfl
  mode := world.telling_same host signature listener Host.mode rfl id
  listener := world.telling_same host signature listener Host.listener rfl id
  depth before := (world.telling_same host signature listener Host.depth rfl id).trans before
  bodies := world.bodiesOn_tellings host signature listener _

/-- A body that is entered is one more frame, and the depth of
its host counts it. -/
theorem entering_passes : Passes id frames (host :: frames) world [.entered host] (world.entering host) where
  trace := rfl
  mode := (world.entering_moved host).same Host.mode rfl id
  listener := (world.entering_moved host).same Host.listener rfl id
  depth before := by
    rw [(world.entering_moved host).hosts]
    by_cases same : id = host
    · subst same
      rw [if_pos rfl, List.count_cons_self, ← before]
      rfl
    · rw [if_neg same, before, List.count_cons_of_ne (Ne.symm same)]
  bodies := by
    change (if host = id then frames.count id + 1 else frames.count id) = _
    rw [List.count_cons]
    by_cases same : host = id
    · rw [if_pos same, if_pos (beq_iff_eq.mpr same)]
    · rw [if_neg same, if_neg (fun equal => same (beq_iff_eq.mp equal)), Nat.add_zero]

/-- The innermost frame is left: the counter goes down with it, and mode and
listener are those that were there. -/
theorem leaving_passes : Passes id (host :: frames) frames world [.left host] (world.leaving host) where
  trace := rfl
  mode := (world.leaving_moved host).same Host.mode rfl id
  listener := (world.leaving_moved host).same Host.listener rfl id
  depth before := by
    rw [(world.leaving_moved host).hosts]
    by_cases same : id = host
    · subst same
      rw [List.count_cons_self] at before
      rw [if_pos rfl]
      unfold Host.leave
      rw [before, Nat.add_sub_cancel]
    · rw [if_neg same, before, List.count_cons_of_ne (Ne.symm same)]
  bodies := by
    change (if host = id then (host :: frames).count id - 1 else (host :: frames).count id) = _
    rw [List.count_cons]
    by_cases same : host = id
    · rw [if_pos same, if_pos (beq_iff_eq.mpr same), Nat.add_sub_cancel]
    · rw [if_neg same, if_neg (fun equal => same (beq_iff_eq.mp equal)), Nat.add_zero]

end World

/-- The calls with a body of the host around them. -/
def inBodies (deliveries : List (Signature × Nat)) : List (Signature × Nat) :=
  deliveries.filter fun call => 0 < call.2

theorem inBodies_singleton (signature : Signature) (bodies : Nat) :
    inBodies [(signature, bodies)] = if 0 < bodies then [(signature, bodies)] else [] := by
  unfold inBodies
  rw [List.filter_singleton]
  simp only [Bool.cond_decide]

/-- Twins in which a host is adaptive and forced. What its listener has heard
of in the first world since `past` is what it has heard of in the second one
since `otherPast`, but for calls outside of all bodies. Both have the same
bodies around them, so they count alike. -/
structure Thinned (callable : String → Bool) (id : HostId) (past otherPast : List Occurrence) (frames : List HostId)
    (world other : World) : Prop where
  twins : Twins callable world other
  adaptive : (world.hosts.get id).mode = .adaptive
  forced : (other.hosts.get id).mode = .forced
  listening : (other.hosts.get id).listener.isSome = (world.hosts.get id).listener.isSome
  depth : (world.hosts.get id).depth = frames.count id
  heard : ∃ first second, world.trace = first.reverse ++ past ∧ other.trace = second.reverse ++ otherPast ∧
    bodiesOn id 0 first = frames.count id ∧ bodiesOn id 0 second = frames.count id ∧
    deliveriesOn id 0 first = inBodies (deliveriesOn id 0 second)

namespace Thinned

variable {callable : String → Bool} {id : HostId} {past otherPast : List Occurrence} {frames inner : List HostId}
  {world other later further : World}

/-- A step that is taken in both worlds, and of which the listener hears
alike, or hears in the second one only, outside of all bodies. -/
theorem step {mine yours : List Occurrence} (thinned : Thinned callable id past otherPast frames world other)
    (twins : Twins callable later further) (first : Passes id frames inner world mine later)
    (second : Passes id frames inner other yours further)
    (heard : deliveriesOn id (frames.count id) mine = inBodies (deliveriesOn id (frames.count id) yours)) :
    Thinned callable id past otherPast inner later further where
  twins := twins
  adaptive := first.mode.trans thinned.adaptive
  forced := second.mode.trans thinned.forced
  listening := by rw [first.listener, second.listener, thinned.listening]
  depth := first.depth thinned.depth
  heard := by
    obtain ⟨before, otherBefore, trace, otherTrace, bodies, otherBodies, same⟩ := thinned.heard
    refine ⟨before ++ mine, otherBefore ++ yours, ?_, ?_, ?_, ?_, ?_⟩
    · rw [first.trace, trace, List.reverse_append, List.append_assoc]
    · rw [second.trace, otherTrace, List.reverse_append, List.append_assoc]
    · rw [bodiesOn_append, bodies, first.bodies]
    · rw [bodiesOn_append, otherBodies, second.bodies]
    · rw [deliveriesOn_append, deliveriesOn_append, bodies, otherBodies, same, heard]
      exact (List.filter_append ..).symm

/-- An adaptive host has a call brought to its listener just if one of its
bodies is open, a forced one always. Within a body both hear; outside of all
bodies only the forced one does, and the filter takes this call away again. -/
theorem publish (thinned : Thinned callable id past otherPast frames world other) (host : HostId)
    (signature : Signature) :
    Thinned callable id past otherPast frames ((Act.publish host signature).after world)
      ((Act.publish host signature).after other) := by
  unfold Act.after
  rw [Act.publish_run, Act.publish_run]
  refine thinned.step (thinned.twins.move (World.telling_alike ..) (World.telling_alike ..))
    (World.telling_passes ..) (World.telling_passes ..) ?_
  rw [World.deliveriesOn_tellings, World.deliveriesOn_tellings]
  by_cases same : host = id
  · subst same
    have delivery : Occurrence.deliveries host (frames.count host) (.delivered host signature) =
        [(signature, frames.count host)] := if_pos rfl
    have always : (other.hosts.get host).isCompiled = true := by
      unfold Host.isCompiled
      rw [thinned.forced]
      rfl
    have inside : (world.hosts.get host).isCompiled = decide (0 < frames.count host) := by
      unfold Host.isCompiled
      rw [thinned.adaptive, thinned.depth]
      rfl
    rw [always, inside, delivery, if_pos rfl, thinned.listening]
    cases (world.hosts.get host).listener with
    | none =>
      rw [ite_self]
      rfl
    | some listener =>
      rw [Option.isSome_some, if_pos rfl, inBodies_singleton]
      by_cases deep : 0 < frames.count host
      · rw [decide_eq_true deep, if_pos deep]
        rfl
      · rw [decide_eq_false deep, if_neg deep]
        rfl
  · have elsewhere : Occurrence.deliveries id (frames.count id) (.delivered host signature) = [] := if_neg same
    rw [elsewhere, ite_self, ite_self]
    rfl

/-- Every step of a plain form keeps such twins such twins. Registrations and
method bodies are the same in both, and nothing else is done to hosts. -/
theorem simulation (id : HostId) (past otherPast : List Occurrence) :
    Simulation callable (Thinned callable id past otherPast) where
  twins thinned := thinned.twins
  number thinned := ⟨thinned.twins.move ⟨rfl, fun _ => rfl⟩ ⟨rfl, fun _ => rfl⟩, thinned.adaptive, thinned.forced,
    thinned.listening, thinned.depth, thinned.heard⟩
  register host _ plain thinned := thinned.step (thinned.twins.registering host plain)
    (World.registering_passes ..) (World.registering_passes ..) rfl
  publish host signature thinned := thinned.publish host signature
  enter host thinned := thinned.step
    (thinned.twins.move (World.entering_alike _ host) (World.entering_alike _ host))
    (World.entering_passes ..) (World.entering_passes ..) rfl
  leave host thinned := thinned.step
    (thinned.twins.move (World.leaving_alike _ host) (World.leaving_alike _ host))
    (World.leaving_passes ..) (World.leaving_passes ..) rfl

end Thinned

/-- A plain form is heard of on an adaptive host as on a forced one, but for
its calls outside of all bodies. -/
theorem deliveriesOn_adaptive {callable : String → Bool} {id : HostId} {world other : World}
    (twins : Twins callable world other)
    (adaptive : (world.hosts.get id).mode = .adaptive) (outside : (world.hosts.get id).depth = 0)
    (forced : (other.hosts.get id).mode = .forced)
    (listening : (other.hosts.get id).listener.isSome = (world.hosts.get id).listener.isSome)
    (fuel : Nat) (context : Context) (thread : ThreadId) {form : Form} (plain : form.isPlain callable = true) :
    deliveriesOn id 0 (happenings fuel context form world) =
      inBodies (deliveriesOn id 0 (happenings fuel { context with thread := thread } form other)) := by
  have start : Thinned callable id world.trace other.trace [] world other :=
    ⟨twins, adaptive, forced, listening, outside, [], [], rfl, rfl, rfl, rfl, rfl⟩
  obtain ⟨_, behind⟩ := (Thinned.simulation id _ _).eval fuel [] context thread form plain world other start
  obtain ⟨first, second, trace, otherTrace, _, _, heard⟩ := behind.heard
  rwa [happenings, happenings, World.since_eq trace, World.since_eq otherTrace]

/-- What is heard of in an evaluation, by the frames around it. For a
call this says who hears of it, and for an evaluation that the bodies
are closed again. -/
structure HeardByFrames (frames : List HostId) (context : Context) (world : World) : Prop where
  evaluated : ∀ fuel form, Runs frames world (happenings fuel context form world)
    ((eval fuel context form).after world)
  depth : ∀ fuel form id,
    (((eval fuel context form).after world).hosts.get id).depth = (world.hosts.get id).depth
  called : ∀ fuel routine args method,
    (world.hosts.get context.host).table.resolve? (.ofCall routine args) = some method →
      let entered := (world.telling context.host (.ofCall routine args) (world.hearer frames context.host)).entering
        context.host
      let body := eval fuel { context with args := args } method.body
      (context.call (eval fuel) routine args).run world =
          (body.outcome entered, (body.after entered).leaving context.host) ∧
        entered.Nested (context.host :: frames)
  calledStatic : ∀ fuel routine args method,
    (world.hosts.get context.host).table.resolve? (.ofCall routine args) = some method →
      let entered := world.entering context.host
      let body := eval fuel { context with args := args } method.body
      (context.callStatic (eval fuel) routine args).run world =
          (body.outcome entered, (body.after entered).leaving context.host) ∧
        entered.Nested (context.host :: frames)

theorem heardByFrames {frames : List HostId} {context : Context} {world : World} (nested : world.Nested frames)
    (made : world.Made context.host) : HeardByFrames frames context world where
  evaluated fuel form := eval_runs nested made fuel form
  depth fuel form id := by
    have behind := (eval_runs nested made fuel form).nested nested
    rw [behind.depth, nested.depth]
  called fuel routine args method resolved := by
    have fresh := (world.telling_moved context.host (.ofCall routine args) (world.hearer frames context.host)).fresh
    exact ⟨Context.call_run nested resolved,
      (nested.telling ..).entering (Nat.lt_of_lt_of_eq made fresh.symm)⟩
  calledStatic fuel routine args method resolved := ⟨Context.callStatic_run resolved, nested.entering made⟩

/-- Who hears of a call is decided by the frames around it; there are none
around the forms of a session. In particular a plain form is heard of in
adaptive mode as in forced mode, but for its calls outside of all bodies. The
frames are those of the forms themselves, so what a host counts is what a
reader of the forms would count. -/
theorem dispatches_follow_frames :
    (∀ topLength forms, let world := { Session.worldBehind topLength forms with trace := [] }
      world.Nested [] ∧ HeardByFrames [] Session.context world) ∧
      (∀ context world frames, world.Nested frames → world.Made context.host →
        HeardByFrames frames context world) ∧
      ∀ callable id world other, Twins callable world other → (world.hosts.get id).mode = .adaptive →
        (world.hosts.get id).depth = 0 → (other.hosts.get id).mode = .forced →
        (other.hosts.get id).listener.isSome = (world.hosts.get id).listener.isSome →
          ∀ fuel (context : Context) thread form, form.isPlain callable = true →
            deliveriesOn id 0 (happenings fuel context form world) =
              inBodies (deliveriesOn id 0 (happenings fuel { context with thread := thread } form other)) := by
  refine ⟨fun topLength forms => ?_, fun context world frames => heardByFrames, ?_⟩
  · obtain ⟨nested, made⟩ := Session.worldBehind_nested topLength forms
    have start : { Session.worldBehind topLength forms with trace := [] }.Nested [] :=
      ⟨nested.depth, nested.made, nested.names.of_eq rfl rfl⟩
    exact ⟨start, heardByFrames start made⟩
  · intro callable id world other twins adaptive outside forced listening fuel context thread form plain
    exact deliveriesOn_adaptive twins adaptive outside forced listening fuel context thread plain

namespace Session

/-- A collector listens to the first host, which is in some mode. -/
def hookedIn (mode : CompileMode) : World :=
  { prepared with hosts := prepared.hosts.put firstHost { mode := mode, listener := some (.collector ⟨7⟩) } }

theorem hookedIn_nested (mode : CompileMode) : (hookedIn mode).Nested [] where
  depth id := by
    refine (congrArg Host.depth (Store.get_put ..)).trans ?_
    split
    · rfl
    · rfl
  made _ member := nomatch member
  names := prepared_reached.namesMade.of_eq rfl rfl

/-- Two worlds that differ in the mode of the first host are twins. They have
the same methods, and a collector listens in both. -/
theorem hookedIn_twins (mode other : CompileMode) (callable : String → Bool) :
    Twins callable (hookedIn mode) (hookedIn other) where
  alike := by
    refine ⟨rfl, fun id => ?_⟩
    unfold hookedIn
    rw [Store.get_put, Store.get_put]
    split
    · rfl
    · rfl
  plain id method member := by
    unfold hookedIn at member
    rw [Store.get_put] at member
    split at member
    · cases member
    · cases member

end Session

open Session in
/-- Forced, the first call is delivered outside of all bodies as well;
adaptive, only the one that stands within bodies is. -/
theorem dispatches_follow_frames_computing :
    Runs [] (hookedIn .adaptive) (happenings 11 context computing (hookedIn .adaptive))
        ((eval 11 context computing).after (hookedIn .adaptive)) ∧
      deliveriesOn firstHost 0 (happenings 11 context computing (hookedIn .forced)) =
        [(⟨"down", ["Int64"]⟩, 0), (⟨"stop", []⟩, 3)] ∧
      deliveriesOn firstHost 0 (happenings 11 context computing (hookedIn .adaptive)) = [(⟨"stop", []⟩, 3)] := by
  obtain ⟨_, heard, thinned⟩ := dispatches_follow_frames
  have known : (hookedIn .adaptive).Made firstHost := (prepared_reached.made prepared_known).1
  have frames := heard context (hookedIn .adaptive) [] (hookedIn_nested .adaptive) known
  have forced : deliveriesOn firstHost 0 (happenings 11 context computing (hookedIn .forced)) =
      [(⟨"down", ["Int64"]⟩, 0), (⟨"stop", []⟩, 3)] := by decide +kernel
  have twins := hookedIn_twins .adaptive .forced computingCalls
  have adaptive := thinned computingCalls firstHost _ _ twins rfl rfl rfl rfl 11 context mainThread computing rfl
  exact ⟨frames.evaluated 11 computing, forced, adaptive.trans (congrArg inBodies forced)⟩

end CallCapture
