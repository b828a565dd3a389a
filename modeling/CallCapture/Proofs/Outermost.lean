import CallCapture.Proofs.EmissionLog
import CallCapture.Proofs.Exactness
import CallCapture.Proofs.Release

namespace CallCapture

namespace Act

theorem endLevel_sinks (id : HostId) (world : World) :
    ((endLevel id).after world).sinks = world.sinks ∧ ((endLevel id).after world).files = world.files := by
  unfold endLevel
  rw [after_host_bind]
  rcases (world.hosts.get id).endCapture with ⟨ending, changed⟩
  cases ending <;> exact ⟨rfl, rfl⟩

/-- Whether a sink takes an emission. It is told from the sink and the files
before the call; what the call changes is another matter. -/
def sinkAnswer (id : SinkId) (emission : Emission) (world : World) : Except Error Unit :=
  match ((world.sinks.get id).emit world.files emission).1 with
  | .error error => .error error
  | .ok _ => .ok ()

theorem handOver_outcome (source : Option HostId) (id : SinkId) (emission : Emission) (world : World) :
    (handOver source id emission).outcome world = (sinkAnswer id emission world).mapError .error := by
  have answered := handOver_answered source id emission world
  unfold sinkAnswer
  revert answered
  generalize ((world.sinks.get id).emit world.files emission).1 = answer
  intro answered
  cases answer with
  | error error => exact answered.1
  | ok changed => exact answered.1

theorem sinkAnswer_of_eq {id : SinkId} {emission : Emission} {world later : World} (sinks : later.sinks = world.sinks)
    (files : later.files = world.files) : sinkAnswer id emission later = sinkAnswer id emission world := by
  unfold sinkAnswer
  rw [sinks, files]

/-- A sink that rejects everything answers with its message, for the artifact
that it was to take. -/
theorem sinkAnswer_rejecting {id : SinkId} {world : World} {message : String}
    (rejects : world.sinks.get id = .rejecting message) (emission : Emission) :
    sinkAnswer id emission world = .error (.emission emission.artifact (.rejected message)) := by
  unfold sinkAnswer
  rw [rejects]
  rfl

end Act

theorem Closes.handOvers_nested {guard : Guard} {world later : World} {closing : List Occurrence} {armed : Armed}
    {level : Nat} (closes : Closes guard world closing later)
    (claimed : (world.hosts.get guard.precompiler.monitor).armed = some armed) (deep : armed.depth = level + 1) :
    CallCapture.handOvers closing = [] := by
  cases closes with
  | @intro _ _ _ emission ends unlock rest =>
    rw [Host.endCapture_nested claimed deep] at rest ⊢
    rw [rest.1]
    rfl

namespace Guard

open Act

variable {guard : Guard} {world : World} {armed : Armed}

/-- The calls of sinks for a guard that is the one to hand over, or is not. A
guard that is not the one to hand over calls no sink at all. -/
def handingOver (guard : Guard) (world : World) (emits : Bool) : List HandOver :=
  if emits then [⟨some guard.precompiler.monitor, guard.precompiler.sink,
    ⟨guard.precompiler.artifact, (world.hosts.get guard.precompiler.monitor).recorded⟩⟩] else []

/-- What it comes to that a guard is finished which is the one to hand over,
or is not. The report names the unit and the artifact of the guard that is
finished, whoever has recorded. -/
def finishing (guard : Guard) (world : World) (emits : Bool) : Except Halt (Option Report) :=
  if emits then
    let recorded := (world.hosts.get guard.precompiler.monitor).recorded
    match sinkAnswer guard.precompiler.sink ⟨guard.precompiler.artifact, recorded⟩ world with
    | .error error => .error (.error error)
    | .ok _ => .ok (some ⟨guard.precompiler.unit, guard.precompiler.artifact, recorded.length⟩)
  else .ok none

/-- What a guard says of itself. It remembers whether it has armed the host,
and asks for nothing when it is closed. Whether it still has the last level
when it is closed is not asked. -/
def isOutermost (guard : Guard) : Bool := guard.nesting = .outermost

/-- The guard keeps what it says of itself: if it is the outermost one, it
hands over what was recorded, on its own sink and under its own artifact, and
reports it; else it does neither. Both ways of closing a guard are judged, by
hand and by a drop. -/
structure Faithful (guard : Guard) (world : World) : Prop where
  finished : handOvers (world.since (guard.disarm.after world)) = guard.handingOver world guard.isOutermost
  dropped : handOvers (world.since (guard.drop.after world)) = guard.handingOver world guard.isOutermost
  answer : guard.disarm.outcome world = guard.finishing world guard.isOutermost

theorem handingOver_inj {emits other : Bool} (same : guard.handingOver world emits = guard.handingOver world other) :
    emits = other := by
  unfold handingOver at same
  cases emits <;> cases other
  · rfl
  · cases same
  · cases same
  · rfl

theorem emit_outcome (guard : Guard) (signatures : List Signature) (world : World) :
    (guard.precompiler.emit signatures).outcome world =
      (sinkAnswer guard.precompiler.sink ⟨guard.precompiler.artifact, signatures⟩ world).mapError .error := by
  unfold Precompiler.emit outcome
  rw [run_note_bind]
  exact handOver_outcome _ _ _ (world.noting _)

/-- Whether a guard that is finished reports depends on the level alone. What
the guard remembers of itself is not looked at. -/
theorem disarm_outcome (claimed : (world.hosts.get guard.precompiler.monitor).armed = some armed) :
    guard.disarm.outcome world = guard.finishing world (armed.depth = 0) := by
  obtain ⟨ended, _⟩ := endLevel_ended guard.precompiler.monitor world
  obtain ⟨released, _⟩ := unlock_released guard.precompiler.engine guard.previous
    ((endLevel guard.precompiler.monitor).after world)
  obtain ⟨sinks, files⟩ := endLevel_sinks guard.precompiler.monitor world
  rw [guard.disarm_eq, outcome_bind_ok ended, outcome_bind_ok released]
  unfold finishing
  cases depth : armed.depth with
  | succ below =>
    rw [Host.endCapture_nested claimed depth]
    rfl
  | zero =>
    rw [Host.endCapture_last claimed depth, Host.recorded_armed claimed]
    have answer : sinkAnswer guard.precompiler.sink ⟨guard.precompiler.artifact, armed.recorded.signatures⟩
        ((unlock guard.precompiler.engine guard.previous).after ((endLevel guard.precompiler.monitor).after world)) =
          sinkAnswer guard.precompiler.sink ⟨guard.precompiler.artifact, armed.recorded.signatures⟩ world :=
      sinkAnswer_of_eq sinks files
    unfold report
    dsimp only
    rw [outcome_bind, guard.emit_outcome, answer]
    cases sinkAnswer guard.precompiler.sink ⟨guard.precompiler.artifact, armed.recorded.signatures⟩ world <;> rfl

/-- A guard that closes quietly makes the calls of the sink that are due: one
for the last level, and none for any other. -/
theorem ClosesQuietly.handOvers {later : World} (closes : guard.ClosesQuietly world later)
    (claimed : (world.hosts.get guard.precompiler.monitor).armed = some armed) :
    handOvers (world.since later) = guard.handingOver world (armed.depth = 0) := by
  obtain ⟨closing, closed, remarks, done, said⟩ := closes
  have trace : later.trace = (closing ++ remarks).reverse ++ world.trace := by
    rw [said.trace, done.trace, List.reverse_append, List.append_assoc]
  have append : CallCapture.handOvers (closing ++ remarks) = CallCapture.handOvers closing := by
    rw [handOvers_append, said.handOvers, List.append_nil]
  rw [World.since_eq trace, append]
  unfold handingOver
  cases depth : armed.depth with
  | zero =>
    rw [Host.recorded_armed claimed]
    exact done.handOvers claimed depth
  | succ below =>
    exact done.handOvers_nested claimed depth

/-- A guard keeps what it says of itself just if it is the outermost one where
the level is the last. So the two ways of telling the outermost capture are
compared in each world. -/
theorem faithful_iff (claimed : (world.hosts.get guard.precompiler.monitor).armed = some armed) :
    guard.Faithful world ↔ (guard.nesting = .outermost ↔ armed.depth = 0) := by
  have finished := (guard.disarm_closesQuietly world).handOvers claimed
  have dropped := (guard.drop_closesQuietly world).handOvers claimed
  have answer := disarm_outcome claimed
  have decides : guard.isOutermost = decide (armed.depth = 0) ↔
      (guard.nesting = .outermost ↔ armed.depth = 0) := by
    unfold isOutermost
    exact decide_eq_decide
  rw [← decides]
  constructor
  · intro faithful
    exact handingOver_inj (faithful.finished.symm.trans finished)
  · intro same
    exact ⟨by rw [same, finished], by rw [same, dropped], by rw [same, answer]⟩

end Guard

namespace Hands

/-- What a thread can do with captures of a host through any precompilers, and
whatever else may be done in between. A guard is named by its place among
those that are held. Captures of other hosts, lockouts and calls are among
what may be done in between. -/
inductive Deed where
  | begin (precompiler : Precompiler)
  | finish (index : Nat)
  | drop (index : Nat)
  | evaluate (fuel : Nat) (context : Context) (form : Form)

/-- The place of the guard that a deed closes. A begin closes none, and
neither does an evaluation. -/
def Deed.closes : Deed → Option Nat
  | finish index | drop index => some index
  | _ => none

/-- What is held behind a deed, and the world behind it. A deed that names no
guard that is held does nothing. -/
def perform (id : HostId) (thread : ThreadId) (hands : Hands) : Deed → Hands
  | .begin precompiler =>
    match (({ precompiler with monitor := id } : Precompiler).beginCapture thread).run hands.world with
    | (.ok (some guard), world) => ⟨world, hands.guards ++ [guard]⟩
    | (_, world) => ⟨world, hands.guards⟩
  | .finish index => hands.close index Guard.disarm
  | .drop index => hands.close index Guard.drop
  | .evaluate fuel context form => ⟨(eval fuel context form).after hands.world, hands.guards⟩

/-- Each deed is done in a way. The way may speak of what is held and of the
world when the deed is done. -/
def Throughout (id : HostId) (thread : ThreadId) (way : Hands → Deed → Prop) : Hands → List Deed → Prop
  | _, [] => True
  | hands, deed :: rest => way hands deed ∧ Throughout id thread way (hands.perform id thread deed) rest

/-- What is evaluated lets go in reverse order of the captures of the host
that it takes into the hand, and leaves the levels of the host to captures.
Lockouts, and captures of other hosts, may be let go in any order. Neither may
it use a monitor by hand. -/
def Calm (id : HostId) (hands : Hands) : Deed → Prop
  | .evaluate fuel context form => LetsGoInOrder (capturesHandled id (happenings fuel context form hands.world)) ∧
      .monitorUsed id ∉ happenings fuel context form hands.world
  | _ => True

/-- A guard that is closed keeps what it says of itself. A deed that closes no
guard keeps to it as well. -/
def ClosesFaithfully (hands : Hands) (deed : Deed) : Prop :=
  ∀ index guard, deed.closes = some index → hands.guards[index]? = some guard → guard.Faithful hands.world

/-- The oldest guard is closed only when no other is held. The others may be
closed in any order before it. -/
def ClosesOldestLast (hands : Hands) (deed : Deed) : Prop := deed.closes = some 0 → hands.guards.length ≤ 1

/-- The guards over the host, oldest first, are its levels besides
others that were there before. The oldest has armed the host if there
were none. It is kept by everything that is done, as long as the oldest
guard is left to the end. -/
structure Levelled (id : HostId) (base : Nat) (hands : Hands) : Prop where
  made : hands.world.Made id
  monitor : ∀ guard ∈ hands.guards, guard.precompiler.monitor = id
  level : (hands.world.hosts.get id).level = base + hands.guards.length
  nesting : ∀ index guard, hands.guards[index]? = some guard →
    (guard.nesting = .outermost ↔ base = 0 ∧ index = 0)

namespace Levelled

variable {id : HostId} {base : Nat} {hands : Hands}

theorem remarks {later : World} {occurrences : List Occurrence} (levelled : Levelled id base hands)
    (said : Remarks hands.world occurrences later) : Levelled id base ⟨later, hands.guards⟩ where
  made := Nat.lt_of_lt_of_eq levelled.made said.fresh.symm
  monitor := levelled.monitor
  level := by
    rw [said.hosts]
    exact levelled.level
  nesting := levelled.nesting

/-- One more guard is held, and the host has one more level. Guards of other
hosts are not among those that are counted. -/
theorem opens {guard : Guard} {opening : List Occurrence} {later : World} (levelled : Levelled id base hands)
    (monitor : guard.precompiler.monitor = id) (opens : Opens guard hands.world opening later) :
    Levelled id base ⟨later, hands.guards ++ [guard]⟩ where
  made := Nat.lt_of_lt_of_eq levelled.made opens.fresh.symm
  monitor other member := by
    rcases List.mem_append.mp member with old | new
    · exact levelled.monitor other old
    · rwa [List.mem_singleton.mp new]
  level := by
    have own : guard.levelOn id = 1 := if_pos monitor
    rw [opens.level, levelled.level, own, List.length_append, List.length_singleton, Nat.add_assoc]
  nesting index other found := by
    rcases Nat.lt_or_ge index hands.guards.length with earlier | later
    · rw [List.getElem?_append_left earlier] at found
      exact levelled.nesting index other found
    · rw [List.getElem?_append_right later, List.getElem?_singleton] at found
      split at found
      · cases found
        have nesting := opens.nesting_eq
        rw [monitor, levelled.level] at nesting
        rw [nesting]
        split
        · simp only [true_iff]
          omega
        · simp only [reduceCtorEq, false_iff]
          omega
      · cases found

theorem begin (levelled : Levelled id base hands) (thread : ThreadId) (precompiler : Precompiler) :
    Levelled id base (hands.perform id thread (.begin precompiler)) := by
  obtain ⟨outcome, later, begun, begins⟩ :=
    Precompiler.beginCapture_run { precompiler with monitor := id } thread hands.world
  unfold perform
  dsimp only
  rw [begun]
  cases begins with
  | closed said => exact levelled.remarks said
  | halted said => exact levelled.remarks said
  | opened same said opens => exact (levelled.remarks said).opens (by rw [same]) opens

/-- A guard that is closed takes one level with it, whichever of them it is.
The oldest one stays the one that has armed the host as long as it is not
taken from under others. -/
theorem close {α : Type} {index : Nat} {ending : Guard → Act α} (levelled : Levelled id base hands)
    (closes : ∀ guard world, Guard.ClosesQuietly guard world ((ending guard).after world))
    (last : base = 0 → index = 0 → hands.guards.length ≤ 1) : Levelled id base (hands.close index ending) := by
  unfold Hands.close
  split
  · exact levelled
  · rename_i guard held
    obtain ⟨closing, closed, remarks, done, said⟩ := closes guard hands.world
    have own : guard.levelOn id = 1 := if_pos (levelled.monitor guard (List.mem_of_getElem? held))
    obtain ⟨inside, _⟩ := List.getElem?_eq_some_iff.mp held
    refine ⟨?_, fun other member => levelled.monitor other (List.mem_of_mem_eraseIdx member), ?_, ?_⟩
    · exact Nat.lt_of_lt_of_eq levelled.made (done.fresh.symm.trans said.fresh.symm)
    · rw [said.hosts, done.level, levelled.level, own, List.length_eraseIdx_of_lt inside]
      omega
    · intro place other found
      rw [List.getElem?_eraseIdx] at found
      split at found
      · exact levelled.nesting place other found
      · -- the guard moves down by a place; `last` keeps it from getting to the lowest one, which it has not armed
        rename_i behind
        have nesting := levelled.nesting (place + 1) other found
        obtain ⟨within, _⟩ := List.getElem?_eq_some_iff.mp found
        rw [nesting]
        omega

theorem evaluate (levelled : Levelled id base hands) {fuel : Nat} {context : Context} {form : Form}
    (calm : Calm id hands (.evaluate fuel context form)) (thread : ThreadId) :
    Levelled id base (hands.perform id thread (.evaluate fuel context form)) := by
  have course := eval_course fuel context form hands.world
  refine ⟨course.made levelled.made, levelled.monitor, ?_, levelled.nesting⟩
  exact course.level levelled.made calm.2 calm.1 levelled.level

/-- Every deed keeps the guards and the levels in step, if it leaves the
oldest guard to the end. One case for each kind of deed. -/
theorem step (levelled : Levelled id base hands) (thread : ThreadId) {deed : Deed} (calm : Calm id hands deed)
    (last : base = 0 → ClosesOldestLast hands deed) : Levelled id base (hands.perform id thread deed) := by
  cases deed with
  | begin precompiler => exact levelled.begin thread precompiler
  | finish index =>
    exact levelled.close Guard.disarm_closesQuietly fun lowest oldest => last lowest (congrArg some oldest)
  | drop index =>
    exact levelled.close Guard.drop_closesQuietly fun lowest oldest => last lowest (congrArg some oldest)
  | evaluate fuel context form => exact levelled.evaluate calm thread

/-- The level tells whether it is the last one, and the place tells whether
the guard is the outermost. On a host that was claimed before, no guard is the
outermost one and no level is the last. -/
theorem closesFaithfully_iff (levelled : Levelled id base hands) (deed : Deed) :
    ClosesFaithfully hands deed ↔ (base = 0 → ClosesOldestLast hands deed) := by
  have faithful {index : Nat} {guard : Guard} (held : hands.guards[index]? = some guard) :
      guard.Faithful hands.world ↔ (base = 0 ∧ index = 0 ↔ base + hands.guards.length = 1) := by
    obtain ⟨inside, _⟩ := List.getElem?_eq_some_iff.mp held
    have level : (hands.world.hosts.get guard.precompiler.monitor).level = base + (hands.guards.length - 1) + 1 := by
      rw [levelled.monitor guard (List.mem_of_getElem? held), levelled.level]
      omega
    obtain ⟨armed, claimed, depth⟩ := Host.armed_of_level level
    rw [Guard.faithful_iff claimed, levelled.nesting index guard held, depth]
    omega
  constructor
  · intro closes lowest oldest
    by_contra several
    obtain ⟨guard, held⟩ : ∃ guard, hands.guards[0]? = some guard :=
      ⟨_, List.getElem?_eq_getElem (by omega)⟩
    have both := (faithful held).mp (closes 0 guard oldest held)
    omega
  · intro last index guard closes held
    obtain ⟨inside, _⟩ := List.getElem?_eq_some_iff.mp held
    rw [faithful held]
    constructor
    · rintro ⟨lowest, rfl⟩
      have single := last lowest closes
      omega
    · omega

end Levelled

/-- Where all deeds so far have left the oldest guard to the end, the next one
can be judged by the levels. -/
theorem Levelled.throughout {id : HostId} {base : Nat} {hands : Hands} (levelled : Levelled id base hands)
    (thread : ThreadId) {deeds : List Deed} (calm : Throughout id thread (Calm id) hands deeds) :
    Throughout id thread ClosesFaithfully hands deeds ↔
      Throughout id thread (fun hands deed => base = 0 → ClosesOldestLast hands deed) hands deeds := by
  induction deeds generalizing hands with
  | nil => exact Iff.rfl
  | cons deed rest ih =>
    obtain ⟨now, behind⟩ := calm
    unfold Throughout
    rw [levelled.closesFaithfully_iff]
    exact and_congr_right fun last => ih (levelled.step thread now last) behind

/-- Whatever a thread does with captures of a host, each guard that is
closed hands over and reports just if it is the outermost one, if and only
if the host was claimed before or the oldest guard is never closed while
there are others. -/
theorem faithful_iff_oldestLast {id : HostId} {world : World} (made : world.Made id) (thread : ThreadId)
    {deeds : List Deed} (calm : Throughout id thread (Calm id) ⟨world, []⟩ deeds) :
    Throughout id thread ClosesFaithfully ⟨world, []⟩ deeds ↔
      Throughout id thread (fun hands deed => (world.hosts.get id).armed = none → ClosesOldestLast hands deed)
        ⟨world, []⟩ deeds := by
  have levelled : Levelled id (world.hosts.get id).level ⟨world, []⟩ :=
    ⟨made, fun _ member => (nomatch member), rfl, fun _ _ held => (nomatch held)⟩
  rw [levelled.throughout thread calm, Host.level_eq_zero]

open Session

/-- Another unit with the sink of the first. -/
def otherUnit : Precompiler := { preparedUnit with unit := "other", artifact := "other" }

/-- Calls within two captures; the latest is closed first. The outermost guard
is at the first place and is closed by being dropped. -/
def latestFirst : List Deed :=
  [.begin preparedUnit, .begin otherUnit, .evaluate 6 context calling, .finish 1, .drop 0]

theorem latestFirst_faithful :
    Throughout firstHost mainThread ClosesFaithfully ⟨prepared, []⟩ latestFirst := by
  have calm : Throughout firstHost mainThread (Calm firstHost) ⟨prepared, []⟩ latestFirst :=
    ⟨trivial, trivial, ⟨by decide +kernel, by decide +kernel⟩, trivial, trivial, trivial⟩
  have last : Throughout firstHost mainThread
      (fun hands deed => (prepared.hosts.get firstHost).armed = none → ClosesOldestLast hands deed)
      ⟨prepared, []⟩ latestFirst :=
    ⟨fun _ closes => (nomatch closes), fun _ closes => (nomatch closes), fun _ closes => (nomatch closes),
      fun _ closes => absurd closes (by decide), fun _ _ => by decide +kernel, trivial⟩
  exact (faithful_iff_oldestLast (prepared_reached.made prepared_known).1 mainThread calm).mpr last

/-- Two guards behind the calls: the first is the outermost one, and
the second is not. -/
def twoHeld : Hands :=
  (((⟨prepared, []⟩ : Hands).perform firstHost mainThread (.begin preparedUnit)).perform firstHost mainThread
    (.begin otherUnit)).perform firstHost mainThread (.evaluate 6 context calling)

/-- If the outermost guard is closed first, it hands over nothing and reports
nothing; the other one does both. -/
theorem oldestFirst_unfaithful :
    ¬ Throughout firstHost mainThread ClosesFaithfully ⟨prepared, []⟩
        [.begin preparedUnit, .begin otherUnit, .evaluate 6 context calling, .finish 0, .finish 0] ∧
      ∃ outer inner, twoHeld.guards = [outer, inner] ∧ outer.isOutermost = true ∧ inner.isOutermost = false ∧
        outer.disarm.outcome twoHeld.world = .ok none ∧
        inner.disarm.outcome (outer.disarm.after twoHeld.world) = .ok (some ⟨"other", "other", 3⟩) := by
  have held : twoHeld.guards = [⟨preparedUnit, .adaptive, .outermost⟩, ⟨otherUnit, .forced, .nested 1⟩] := by
    decide +kernel
  constructor
  · rintro ⟨_, _, _, first, _⟩
    have answer := (first 0 ⟨preparedUnit, .adaptive, .outermost⟩ rfl (congrArg (·[0]?) held)).answer
    revert answer
    decide +kernel
  · exact ⟨_, _, held, rfl, rfl, by decide +kernel, by decide +kernel⟩

end Hands

end CallCapture
