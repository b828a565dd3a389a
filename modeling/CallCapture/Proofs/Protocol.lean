import CallCapture.Proofs.Evaluation
import CallCapture.Proofs.Levels
import CallCapture.Proofs.Recording
import CallCapture.Proofs.Reach
import Mathlib.Data.List.Induction

namespace CallCapture

namespace Act

variable {α : Type}

/-- Acts on the host of a monitor. Monitors are told apart by their
names only: all that they know is their host. A monitor that has no name
cannot be used by hand. -/
def through (monitor : String) (action : HostId → Act α) : Act α := do action (← monitorNamed monitor)

theorem through_run {monitor : String} {id : HostId} {world : World}
    (bound : world.names.monitors.lookup monitor = some id) (action : HostId → Act α) :
    (through monitor action).run world = (action id).run world := by
  unfold through monitorNamed
  rw [run_bind, run_named, bound]
  rfl

end Act

/-- What a thread does with monitors, and the calls that are resolved in
between: in code that runs in some mode, inside of so many method bodies.
Calls carry the mode and the depth along, as a protocol for any code has
to allow for both. -/
inductive MonitorEvent where
  | begin (monitor unit : String) (verbose : Bool)
  | finish (monitor : String)
  | call (mode : CompileMode) (depth : Nat) (signature : Signature)
  deriving DecidableEq

/-- The host as the code that makes a call leaves it. What is delivered
depends on these two, so an event brings its own. -/
def Host.calling {Body : Type} (host : Host Body) (mode : CompileMode) (depth : Nat) : Host Body :=
  { host with mode := mode, depth := depth }

namespace MonitorEvent

/-- The monitor that an event goes through. Calls go through none, as any
code can make them. -/
def monitor? : MonitorEvent → Option String
  | begin monitor _ _ | finish monitor => some monitor
  | call .. => none

/-- The action that an event is, on the host of its monitor. A begin that is
refused and an end that has nothing to end are actions all the same. -/
def action (id : HostId) (thread : ThreadId) : MonitorEvent → Act Unit
  | begin monitor unit verbose => discard (Act.through monitor fun host => Act.beginLevel host unit verbose thread)
  | finish monitor => discard (Act.through monitor Act.endLevel)
  | call mode depth signature => do
    Act.setHost id ((← Act.host id).calling mode depth)
    Act.publish id signature

/-- How an event changes the number of levels. Every begin raises a level, and
every end lowers it unless it is nothing. -/
def change (level : Nat) : MonitorEvent → Nat
  | begin .. => level + 1
  | finish _ => level - 1
  | call .. => level

/-- Only calls from compiled code are dispatch events. These are the calls
that a listener would hear of. -/
def dispatch? : MonitorEvent → Option Signature
  | call mode depth signature => if mode = .forced ∨ 0 < depth then some signature else none
  | _ => none

end MonitorEvent

/-- The world behind some events. It is one thread's, with any number of
monitors over the one host. -/
def performed (id : HostId) (thread : ThreadId) (world : World) (events : List MonitorEvent) : World :=
  events.foldl (fun before event => (event.action id thread).after before) world

/-- The levels that are open behind some events, if none is open before them.
An end too many leaves it at none. -/
def outstanding (events : List MonitorEvent) : Nat := events.foldl MonitorEvent.change 0

/-- What ending a level comes to, if so many are open. Only the last level
gives the set out. -/
def endingAt (recorded : CaptureSet) : Nat → Ending
  | 0 => .unarmed
  | 1 => .outermost recorded
  | _ + 2 => .nested

/-- The signatures of all dispatch events. Which calls are delivered at all
depends on mode and depth. -/
def dispatched (events : List MonitorEvent) : List Signature := events.filterMap MonitorEvent.dispatch?

/-- The events `during` are those since the begin that last raised
the level from nothing. What was recorded before that begin was given
away with an end. -/
def SinceRaised (events during : List MonitorEvent) : Prop :=
  ∃ before monitor unit verbose, events = before ++ .begin monitor unit verbose :: during ∧ outstanding before = 0 ∧
    ∀ early, early <+: during → 0 < outstanding (before ++ .begin monitor unit verbose :: early)

theorem outstanding_append_singleton (events : List MonitorEvent) (event : MonitorEvent) :
    outstanding (events ++ [event]) = event.change (outstanding events) := by
  unfold outstanding
  rw [List.foldl_append]
  rfl

theorem performed_append_singleton (id : HostId) (thread : ThreadId) (world : World) (events : List MonitorEvent)
    (event : MonitorEvent) : performed id thread world (events ++ [event]) =
      (event.action id thread).after (performed id thread world events) := by
  unfold performed
  rw [List.foldl_append]
  rfl

theorem dispatched_append (first rest : List MonitorEvent) :
    dispatched (first ++ rest) = dispatched first ++ dispatched rest :=
  List.filterMap_append

theorem sinceRaised_begin {events : List MonitorEvent} (monitor unit : String) (verbose : Bool)
    (lowest : outstanding events = 0) : SinceRaised (events ++ [.begin monitor unit verbose]) [] := by
  refine ⟨events, monitor, unit, verbose, rfl, lowest, fun early none => ?_⟩
  rw [List.prefix_nil.mp none, outstanding_append_singleton, lowest]
  exact Nat.zero_lt_one

theorem SinceRaised.append {events during : List MonitorEvent} {event : MonitorEvent}
    (since : SinceRaised events during) (raised : 0 < outstanding (events ++ [event])) :
    SinceRaised (events ++ [event]) (during ++ [event]) := by
  obtain ⟨before, monitor, unit, verbose, rfl, lowest, positive⟩ := since
  refine ⟨before, monitor, unit, verbose, by rw [List.append_assoc, List.cons_append], lowest, fun early earlier => ?_⟩
  rcases List.prefix_concat_iff.mp earlier with rfl | sooner
  · rwa [List.append_assoc, List.cons_append] at raised
  · exact positive early sooner

/-- A host has been through some events of a thread: its level is theirs, and
while there is a level, the recorder of the thread listens and has heard what
was dispatched since the level was raised. It ties the host to the events, and
every answer of a monitor is read off it. -/
structure Tracks (thread : ThreadId) (events : List MonitorEvent) (host : Host Form) : Prop where
  level : host.level = outstanding events
  silent : host.armed = none → host.listener = none
  recording : ∀ armed, host.armed = some armed → armed.owner = thread ∧ host.listener = some .recorder ∧
    ∃ during, SinceRaised events during ∧ armed.recorded = CaptureSet.empty.recordAll (dispatched during)

namespace Tracks

variable {thread : ThreadId} {events : List MonitorEvent} {host changed : Host Form}

theorem recording_append {event : MonitorEvent} {recorded : CaptureSet}
    (recording : ∃ during, SinceRaised events during ∧ recorded = CaptureSet.empty.recordAll (dispatched during))
    (raised : 0 < outstanding (events ++ [event])) (undispatched : event.dispatch? = none) :
    ∃ during, SinceRaised (events ++ [event]) during ∧
      recorded = CaptureSet.empty.recordAll (dispatched during) := by
  obtain ⟨during, since, heard⟩ := recording
  refine ⟨during ++ [event], since.append raised, ?_⟩
  have nothing : dispatched [event] = [] := List.filterMap_cons_none undispatched
  rw [dispatched_append, nothing, List.append_nil]
  exact heard

/-- No begin of this thread is refused, and the answer tells the level. There
is only this thread, so nobody can be in its way. -/
theorem begins (tracks : Tracks thread events host) (verbose : Bool) :
    ∃ changed, host.beginCapture? thread verbose =
      some (if outstanding events = 0 then .outermost else .nested (outstanding events), changed) := by
  cases begun : host.beginCapture? thread verbose with
  | some claimed =>
    obtain ⟨nesting, changed⟩ := claimed
    rw [(Host.beginCapture?_level begun).1, tracks.level]
    exact ⟨changed, rfl⟩
  | none =>
    unfold Host.beginCapture? at begun
    split at begun
    · cases begun
    · rename_i armed claimed
      rw [if_pos (tracks.recording armed claimed).1] at begun
      cases begun

/-- A begin is one more event, whether it raises the level from nothing or
goes on top of others. -/
theorem begin {verbose : Bool} {nesting : Nesting} (tracks : Tracks thread events host) (monitor unit : String)
    (begun : host.beginCapture? thread verbose = some (nesting, changed)) :
    Tracks thread (events ++ [.begin monitor unit verbose]) changed := by
  have raised := (Host.beginCapture?_level begun).2
  have level : changed.level = outstanding (events ++ [.begin monitor unit verbose]) := by
    rw [raised, tracks.level, outstanding_append_singleton]
    rfl
  cases claimed : host.armed with
  | none =>
    obtain ⟨_, rfl⟩ := Host.beginCapture?_unarmed claimed begun
    refine ⟨level, fun free => (nomatch free), fun armed same => ?_⟩
    cases same
    have lowest : outstanding events = 0 := tracks.level.symm.trans (Host.level_unarmed claimed)
    exact ⟨rfl, rfl, [], sinceRaised_begin monitor unit verbose lowest, rfl⟩
  | some armed =>
    obtain ⟨_, rfl⟩ := Host.beginCapture?_armed claimed begun
    obtain ⟨owner, listening, recording⟩ := tracks.recording armed claimed
    refine ⟨level, fun free => (nomatch free), fun other same => ?_⟩
    cases same
    refine ⟨owner, listening, recording_append recording ?_ rfl⟩
    rw [← level, raised]
    exact Nat.succ_pos _

/-- An end is one more event. Behind the last level, the host is as
free as at first. -/
theorem finish (tracks : Tracks thread events host) (monitor : String) :
    Tracks thread (events ++ [.finish monitor]) host.endCapture.2 := by
  have level : host.endCapture.2.level = outstanding (events ++ [.finish monitor]) := by
    rw [Host.endCapture_level, tracks.level, outstanding_append_singleton]
    rfl
  cases claimed : host.armed with
  | none =>
    have same : host.endCapture.2 = host := by
      unfold Host.endCapture
      rw [claimed]
    rw [same] at level ⊢
    exact ⟨level, tracks.silent, fun armed other => by rw [claimed] at other; cases other⟩
  | some armed =>
    cases deep : armed.depth with
    | zero =>
      rw [Host.endCapture_last claimed deep] at level ⊢
      exact ⟨level, fun _ => rfl, fun _ other => nomatch other⟩
    | succ below =>
      obtain ⟨owner, listening, recording⟩ := tracks.recording armed claimed
      rw [Host.endCapture_nested claimed deep] at level ⊢
      refine ⟨level, fun free => (nomatch free), fun other same => ?_⟩
      cases same
      refine ⟨owner, listening, recording_append recording ?_ rfl⟩
      rw [← level]
      exact Nat.succ_pos below

/-- A call that is not delivered leaves everything as the events tell it.
Neither the level nor the recorded set changes. -/
theorem unheard (tracks : Tracks thread events host) (mode : CompileMode) (depth : Nat) (signature : Signature)
    (unheard : (host.calling mode depth).isCompiled = false ∨ host.armed = none) :
    Tracks thread (events ++ [.call mode depth signature]) (host.calling mode depth) := by
  have still := outstanding_append_singleton events (.call mode depth signature)
  refine ⟨tracks.level.trans still.symm, tracks.silent, fun armed claimed => ?_⟩
  obtain ⟨owner, listening, recording⟩ := tracks.recording armed claimed
  refine ⟨owner, listening, recording_append recording ?_ ?_⟩
  · rw [still]
    exact Nat.lt_of_lt_of_eq (Nat.succ_pos _) ((Host.level_armed claimed).symm.trans tracks.level)
  · -- a call that is heard by nobody while the host is claimed is one from interpreted code
    rcases unheard with interpreted | free
    · refine if_neg fun compiled => ?_
      unfold Host.isCompiled Host.calling at interpreted
      simp only [Bool.or_eq_false_iff, beq_eq_false_iff_ne, decide_eq_false_iff_not] at interpreted
      exact compiled.elim interpreted.1 interpreted.2
    · cases free.symm.trans claimed

/-- A call that is delivered to a claimed host is recorded. It comes last of
the dispatches that the events tell since the host was claimed. -/
theorem heard {armed : Armed} (tracks : Tracks thread events host) (mode : CompileMode) (depth : Nat)
    (signature : Signature) (compiled : (host.calling mode depth).isCompiled = true)
    (claimed : host.armed = some armed) :
    Tracks thread (events ++ [.call mode depth signature]) ((host.calling mode depth).hear signature) := by
  have still := outstanding_append_singleton events (.call mode depth signature)
  obtain ⟨owner, listening, during, since, recorded⟩ := tracks.recording armed claimed
  have hears : ((host.calling mode depth).hear signature).armed =
      some { armed with recorded := armed.recorded.record signature } := congrArg (Option.map _) claimed
  have level : ((host.calling mode depth).hear signature).level = outstanding events := by
    rw [Host.level_armed hears, ← tracks.level, Host.level_armed claimed]
  have dispatch : dispatched [.call mode depth signature] = [signature] := by
    refine List.filterMap_cons_some (if_pos ?_)
    unfold Host.isCompiled Host.calling at compiled
    simpa only [Bool.or_eq_true, beq_iff_eq, decide_eq_true_eq] using compiled
  refine ⟨level.trans still.symm, fun free => ?_, fun other same => ?_⟩
  · cases free.symm.trans hears
  · cases same.symm.trans hears
    refine ⟨owner, listening, during ++ [.call mode depth signature], since.append ?_, ?_⟩
    · rw [still]
      exact Nat.lt_of_lt_of_eq (Nat.succ_pos _) ((Host.level_armed hears).symm.trans level)
    · rw [dispatched_append, dispatch, CaptureSet.recordAll_append, ← recorded]
      rfl

theorem unarmed (tracks : Tracks thread events host) (lowest : outstanding events = 0) :
    host.armed = none ∧ host.recorded = [] ∧ host.endCapture = (.unarmed, host) := by
  have free := Host.level_eq_zero.mp (tracks.level.trans lowest)
  refine ⟨free, Host.recorded_unarmed free, ?_⟩
  unfold Host.endCapture
  rw [free]

theorem armed_iff (tracks : Tracks thread events host) : host.armed.isSome = true ↔ 0 < outstanding events := by
  rw [Option.isSome_iff_ne_none, Ne, ← Host.level_eq_zero, tracks.level, Nat.pos_iff_ne_zero]

theorem listening_iff (tracks : Tracks thread events host) :
    host.listener.isSome = true ↔ 0 < outstanding events := by
  rw [← tracks.armed_iff]
  cases claimed : host.armed with
  | none => rw [tracks.silent claimed]; exact Iff.rfl
  | some armed => rw [(tracks.recording armed claimed).2.1]; exact Iff.rfl

theorem ends (tracks : Tracks thread events host) : ∃ set : CaptureSet, set.signatures = host.recorded ∧
    host.endCapture.1 = endingAt set (outstanding events) := by
  cases level : outstanding events with
  | zero =>
    obtain ⟨_, nothing, unarmed⟩ := tracks.unarmed level
    exact ⟨.empty, nothing.symm, congrArg Prod.fst unarmed⟩
  | succ depth =>
    obtain ⟨armed, claimed, deep⟩ := Host.armed_of_level (tracks.level.trans level)
    refine ⟨armed.recorded, (Host.recorded_armed claimed).symm, ?_⟩
    cases depth with
    | zero => exact congrArg Prod.fst (Host.endCapture_last claimed deep)
    | succ below => exact congrArg Prod.fst (Host.endCapture_nested claimed deep)

/-- While a level is open, what was recorded is what was dispatched since it
was raised from nothing, each signature once. Calls from code that is not
compiled are not among these. -/
theorem recorded (tracks : Tracks thread events host) (raised : 0 < outstanding events) :
    ∃ during, SinceRaised events during ∧ host.recorded = (dispatched during).eraseDups := by
  obtain ⟨armed, claimed⟩ := Option.isSome_iff_exists.mp (tracks.armed_iff.mpr raised)
  obtain ⟨_, _, during, since, heard⟩ := tracks.recording armed claimed
  refine ⟨during, since, ?_⟩
  rw [Host.recorded_armed claimed, ← CaptureSet.signatures_recordAll, ← heard]

end Tracks

/-- The monitors of these events are over one host. Which of them an event
goes through makes no difference then. -/
def Over (world : World) (id : HostId) (events : List MonitorEvent) : Prop :=
  ∀ event ∈ events, ∀ monitor ∈ event.monitor?, world.names.monitors.lookup monitor = some id

instance (world : World) (id : HostId) (events : List MonitorEvent) : Decidable (Over world id events) :=
  inferInstanceAs (Decidable (∀ event ∈ events, ∀ monitor ∈ event.monitor?,
    world.names.monitors.lookup monitor = some id))

theorem Tracks.publish {id : HostId} {thread : ThreadId} {events : List MonitorEvent} {world : World}
    {host : Host Form} {mode : CompileMode} {depth : Nat} (tracks : Tracks thread events host)
    (signature : Signature) (calling : world.hosts.get id = host.calling mode depth) :
    ((Act.publish id signature).after world).names = world.names ∧
      Tracks thread (events ++ [.call mode depth signature])
        (((Act.publish id signature).after world).hosts.get id) := by
  cases compiled : (host.calling mode depth).isCompiled with
  | false =>
    have moved := Act.publish_unheard signature (.inl ((congrArg Host.isCompiled calling).trans compiled))
    rw [moved.get_self, calling]
    exact ⟨moved.names, tracks.unheard mode depth signature (.inl compiled)⟩
  | true =>
    cases claimed : host.armed with
    | none =>
      have moved := Act.publish_unheard signature
        (.inr ((congrArg Host.listener calling).trans (tracks.silent claimed)))
      rw [moved.get_self, calling]
      exact ⟨moved.names, tracks.unheard mode depth signature (.inr claimed)⟩
    | some armed =>
      have moved := Act.publish_recorded signature ((congrArg Host.isCompiled calling).trans compiled)
        ((congrArg Host.listener calling).trans (tracks.recording armed claimed).2.1)
      rw [moved.get_self, calling]
      exact ⟨moved.names, tracks.heard mode depth signature compiled claimed⟩

/-- What one event makes of a host that has been through others. The four
kinds of events, with calls told apart by whether anybody hears them. -/
theorem Tracks.step {id : HostId} {thread : ThreadId} {events : List MonitorEvent} {world : World}
    {event : MonitorEvent} (tracks : Tracks thread events (world.hosts.get id)) (bound : Over world id [event]) :
    ((event.action id thread).after world).names = world.names ∧
      Tracks thread (events ++ [event]) (((event.action id thread).after world).hosts.get id) := by
  cases event with
  | begin monitor unit verbose =>
    have known := bound _ (List.mem_singleton_self _) monitor rfl
    obtain ⟨changed, begun⟩ := tracks.begins verbose
    obtain ⟨_, moved⟩ := Act.beginLevel_begun unit begun
    unfold MonitorEvent.action
    rw [Act.after_discard, Act.after, Act.through_run known]
    refine ⟨moved.names, ?_⟩
    rw [← Act.after, moved.get_self]
    exact tracks.begin monitor unit begun
  | finish monitor =>
    have known := bound _ (List.mem_singleton_self _) monitor rfl
    obtain ⟨_, moved⟩ := Act.endLevel_ended id world
    unfold MonitorEvent.action
    rw [Act.after_discard, Act.after, Act.through_run known]
    refine ⟨moved.names, ?_⟩
    rw [← Act.after, moved.get_self]
    exact tracks.finish monitor
  | call mode depth signature =>
    have put := Moved.put world id ((world.hosts.get id).calling mode depth) []
    have performs : ((MonitorEvent.call mode depth signature).action id thread).after world =
        (Act.publish id signature).after
          { world with hosts := world.hosts.put id ((world.hosts.get id).calling mode depth) } := by
      unfold MonitorEvent.action
      rw [Act.after_host_bind]
      rfl
    rw [performs]
    exact tracks.publish signature put.get_self

/-- A host that was free at first has been through the events that were
performed, by induction on them. -/
theorem tracks_performed {id : HostId} {world : World} {events : List MonitorEvent} (thread : ThreadId)
    (free : (world.hosts.get id).armed = none) (silent : (world.hosts.get id).listener = none)
    (bound : Over world id events) :
    (performed id thread world events).names = world.names ∧
      Tracks thread events ((performed id thread world events).hosts.get id) := by
  induction events using List.reverseRecOn with
  | nil =>
    refine ⟨rfl, Host.level_unarmed free, fun _ => silent, fun armed claimed => ?_⟩
    cases free.symm.trans claimed
  | append_singleton before event ih =>
    obtain ⟨boundBefore, boundLast⟩ := List.forall_mem_append.mp bound
    obtain ⟨names, tracks⟩ := ih boundBefore
    rw [performed_append_singleton]
    have boundNow : Over (performed id thread world before) id [event] := by
      unfold Over
      rwa [names]
    obtain ⟨kept, still⟩ := tracks.step boundNow
    exact ⟨kept.trans names, still⟩

/-- What the monitors over a host answer behind some events, and what is to
be found on the host. It holds behind any events, so each answer is one
that the events tell. -/
structure Protocol (id : HostId) (thread : ThreadId) (events : List MonitorEvent) (world : World) : Prop where
  armed : (world.hosts.get id).armed.isSome = true ↔ 0 < outstanding events
  listening : (world.hosts.get id).listener.isSome = true ↔ 0 < outstanding events
  begins : ∀ monitor unit verbose, world.names.monitors.lookup monitor = some id →
    (Act.through monitor fun host => Act.beginLevel host unit verbose thread).outcome world =
      .ok (if outstanding events = 0 then .outermost else .nested (outstanding events))
  ends : ∀ monitor, world.names.monitors.lookup monitor = some id →
    ∃ set : CaptureSet, set.signatures = (world.hosts.get id).recorded ∧
      (Act.through monitor Act.endLevel).outcome world = .ok (endingAt set (outstanding events))
  unmatched : outstanding events = 0 → ∀ monitor, world.names.monitors.lookup monitor = some id →
    ∃ hosts, (∀ other, hosts.get other = world.hosts.get other) ∧
      (Act.through monitor Act.endLevel).after world =
        { world with hosts := hosts, trace := .endedUnarmed id :: world.trace }
  unrecorded : outstanding events = 0 → (world.hosts.get id).recorded = []
  recorded : 0 < outstanding events → ∃ during, SinceRaised events during ∧
    (world.hosts.get id).recorded = (dispatched during).eraseDups

/-- The monitors of one host, used by one thread, count its levels in common:
behind any events their answers are those that the events tell. -/
theorem monitor_protocol {id : HostId} {world : World} (free : (world.hosts.get id).armed = none)
    (silent : (world.hosts.get id).listener = none) (thread : ThreadId) {events : List MonitorEvent}
    (bound : Over world id events) : Protocol id thread events (performed id thread world events) := by
  obtain ⟨_, tracks⟩ := tracks_performed thread free silent bound
  generalize performed id thread world events = later at tracks
  refine ⟨tracks.armed_iff, tracks.listening_iff, fun monitor unit verbose known => ?_, fun monitor known => ?_,
    fun lowest monitor known => ?_, fun lowest => (tracks.unarmed lowest).2.1, tracks.recorded⟩
  · obtain ⟨changed, begun⟩ := tracks.begins verbose
    rw [Act.outcome, Act.through_run known]
    exact (Act.beginLevel_begun unit begun).1
  · obtain ⟨set, signatures, ends⟩ := tracks.ends
    refine ⟨set, signatures, ?_⟩
    rw [Act.outcome, Act.through_run known, ← ends]
    exact (Act.endLevel_ended id later).1
  · obtain ⟨_, _, unarmed⟩ := tracks.unarmed lowest
    have put := Moved.put later id (later.hosts.get id) []
    refine ⟨later.hosts.put id (later.hosts.get id), put.same (fun host => host) rfl, ?_⟩
    rw [Act.after, Act.through_run known, ← Act.after]
    unfold Act.endLevel
    rw [Act.after_host_bind, unarmed]
    rfl

namespace Session

/-- The first host with two monitors over it. -/
def watched : World :=
  (eval 2 context (.sequence [.command (.newMonitor "one" "h"), .command (.newMonitor "two" "h")])).after (initial 0)

/-- An end too many, a capture of two levels, and one level of a further
capture. Of the calls within the first capture, the one in interpreted code
is not dispatched. -/
def watching : List MonitorEvent :=
  [.finish "one", .begin "one" "unit" false, .call .forced 0 ⟨"first", []⟩, .begin "two" "unit" false,
    .call .adaptive 0 ⟨"second", []⟩, .call .adaptive 1 ⟨"third", []⟩, .finish "one", .call .forced 0 ⟨"first", []⟩,
    .finish "two", .begin "two" "other" true, .call .forced 1 ⟨"second", []⟩, .call .forced 0 ⟨"second", []⟩]

end Session

open Session in
/-- One thread goes through two monitors of one host. The levels are
counted over both of them, so a level that one has begun can be ended
through the other. -/
theorem monitor_protocol_watching :
    let later := performed firstHost mainThread watched watching
    outstanding watching = 1 ∧ (later.hosts.get firstHost).armed.isSome = true ∧
      (Act.through "one" fun host => Act.beginLevel host "unit" false mainThread).outcome later =
        .ok (.nested 1) ∧
      ∃ set : CaptureSet, set.signatures = [⟨"second", []⟩] ∧
        (Act.through "two" Act.endLevel).outcome later = .ok (.outermost set) := by
  have level : outstanding watching = 1 := rfl
  have bound : Over watched firstHost watching := by decide +kernel
  have protocol := monitor_protocol rfl rfl mainThread bound
  have names : (performed firstHost mainThread watched watching).names = watched.names := by
    decide +kernel
  have recorded : ((performed firstHost mainThread watched watching).hosts.get firstHost).recorded =
      [⟨"second", []⟩] := by decide +kernel
  have begins := protocol.begins "one" "unit" false (by rw [names]; decide +kernel)
  obtain ⟨set, signatures, ends⟩ := protocol.ends "two" (by rw [names]; decide +kernel)
  rw [level] at begins ends
  exact ⟨level, protocol.armed.mpr (by rw [level]; exact Nat.one_pos), begins, set, signatures.trans recorded, ends⟩

end CallCapture
