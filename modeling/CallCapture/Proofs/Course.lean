import CallCapture.Proofs.History
import CallCapture.Session.Capture

namespace CallCapture

namespace World

/-- A world in which one more thing has occurred. Nothing but the trace
differs from before. -/
def noting (world : World) (occurrence : Occurrence) : World :=
  { world with trace := occurrence :: world.trace }

/-- The number of the host has been given away, so the host is one
that is there. Numbers are given away in order, so this can be read
off the next one. -/
def Made (world : World) (id : HostId) : Prop := id.number < world.fresh

/-- All hosts that names lead to have been made. A name that leads to a host
that is not there yet would find the next new one. -/
structure NamesMade (world : World) : Prop where
  hosts : ∀ entry ∈ world.names.hosts, world.Made entry.2
  monitors : ∀ entry ∈ world.names.monitors, world.Made entry.2
  precompilers : ∀ entry ∈ world.names.precompilers,
    world.Made entry.2.monitor ∧ world.Made entry.2.engine

/-- Names go on leading to hosts that are there, as numbers are
never taken back. -/
theorem NamesMade.mono {world later : World} (made : world.NamesMade) (names : later.names.hosts = world.names.hosts ∧
      later.names.monitors = world.names.monitors ∧ later.names.precompilers = world.names.precompilers)
    (fresh : world.fresh ≤ later.fresh) : later.NamesMade where
  hosts entry member := Nat.lt_of_lt_of_le (made.hosts entry (names.1 ▸ member)) fresh
  monitors entry member := Nat.lt_of_lt_of_le (made.monitors entry (names.2.1 ▸ member)) fresh
  precompilers entry member :=
    have both := made.precompilers entry (names.2.2 ▸ member)
    ⟨Nat.lt_of_lt_of_le both.1 fresh, Nat.lt_of_lt_of_le both.2 fresh⟩

end World

/-- What is said about gates, refusals, workloads and emissions. It shows
nothing that happens to a host. What is only said can be left out when a host
is judged by the trace. -/
def Occurrence.isRemark : Occurrence → Bool
  | refused .. | phaseAsked _ | gateFailed .. | gateClosed .. | emitting .. | manifestWritten .. | emitted ..
  | reported .. | workloadFailed _ | emissionFailedToo .. | emissionFailedInDrop .. | preferencesMissing _
  | verboseForces => true
  | _ => false

/-- What concerns no host. A sink that a session calls itself is among it, as
nobody's capture hands over there. -/
def Occurrence.isQuiet : Occurrence → Bool
  | handedOver none .. => true
  | occurrence => occurrence.isRemark

theorem Occurrence.isQuiet_of_isRemark {occurrence : Occurrence} (remark : occurrence.isRemark = true) :
    occurrence.isQuiet = true := by
  cases occurrence <;> first | exact remark | simp [isRemark] at remark

/-- Something is said, and nothing happens to a host, a collector, a name or a
number. Flags, sinks and files may change. Gates, refusals and sinks are of
this kind: they leave every host as it was. -/
structure Remarks (world : World) (occurrences : List Occurrence) (later : World) : Prop where
  trace : later.trace = occurrences.reverse ++ world.trace
  remarks : ∀ occurrence ∈ occurrences, occurrence.isRemark = true
  hosts : later.hosts = world.hosts
  collectors : later.collectors = world.collectors
  fresh : later.fresh = world.fresh
  names : later.names = world.names

theorem Remarks.refl (world : World) : Remarks world [] world := ⟨rfl, by simp, rfl, rfl, rfl, rfl⟩

theorem Remarks.trans {world middle later : World} {first rest : List Occurrence} (before : Remarks world first middle)
    (behind : Remarks middle rest later) : Remarks world (first ++ rest) later where
  trace := by rw [behind.trace, before.trace, List.reverse_append, List.append_assoc]
  remarks occurrence member := by
    rcases List.mem_append.mp member with old | new
    · exact before.remarks occurrence old
    · exact behind.remarks occurrence new
  hosts := behind.hosts.trans before.hosts
  collectors := behind.collectors.trans before.collectors
  fresh := behind.fresh.trans before.fresh
  names := behind.names.trans before.names

theorem Remarks.noting (world : World) {occurrence : Occurrence} (remark : occurrence.isRemark = true) :
    Remarks world [occurrence] (world.noting occurrence) :=
  ⟨rfl, by simpa using remark, rfl, rfl, rfl, rfl⟩

/-- Nothing happens to a collector or to a host that has been made; new hosts
may be, as they are at first. A course is put together from such stretches and
from moves of single hosts. -/
structure Quiet (world : World) (occurrences : List Occurrence) (later : World) : Prop where
  trace : later.trace = occurrences.reverse ++ world.trace
  quiet : ∀ occurrence ∈ occurrences, occurrence.isQuiet = true
  hosts : ∀ id, world.Made id → later.hosts.get id = world.hosts.get id
  added : ∀ id, ¬ world.Made id → later.hosts.get id = world.hosts.get id ∨ later.hosts.get id = {}
  collectors : later.collectors = world.collectors
  fresh : world.fresh ≤ later.fresh
  names : world.NamesMade → later.NamesMade

/-- What is quiet twice in a row is quiet: a host that was there at first is
there in the middle as well. -/
theorem Quiet.trans {world middle later : World} {first rest : List Occurrence} (before : Quiet world first middle)
    (behind : Quiet middle rest later) : Quiet world (first ++ rest) later where
  trace := by rw [behind.trace, before.trace, List.reverse_append, List.append_assoc]
  quiet occurrence member := by
    rcases List.mem_append.mp member with old | new
    · exact before.quiet occurrence old
    · exact behind.quiet occurrence new
  hosts id made := (behind.hosts id (Nat.lt_of_lt_of_le made before.fresh)).trans (before.hosts id made)
  added id unmade := by
    by_cases made : middle.Made id
    · rw [behind.hosts id made]
      exact before.added id unmade
    · rcases behind.added id made with same | new
      · rw [same]
        exact before.added id unmade
      · exact Or.inr new
  collectors := behind.collectors.trans before.collectors
  fresh := Nat.le_trans before.fresh behind.fresh
  names made := behind.names (before.names made)

theorem Quiet.of_eq {world later : World} {occurrences : List Occurrence}
    (trace : later.trace = occurrences.reverse ++ world.trace)
    (quiet : ∀ occurrence ∈ occurrences, occurrence.isQuiet = true) (hosts : later.hosts = world.hosts)
    (collectors : later.collectors = world.collectors) (fresh : world.fresh ≤ later.fresh)
    (names : later.names.hosts = world.names.hosts ∧ later.names.monitors = world.names.monitors ∧
      later.names.precompilers = world.names.precompilers) : Quiet world occurrences later where
  trace := trace
  quiet := quiet
  hosts id _ := by rw [hosts]
  added id _ := Or.inl (by rw [hosts])
  collectors := collectors
  fresh := fresh
  names made := made.mono names fresh

theorem Quiet.refl (world : World) : Quiet world [] world :=
  .of_eq rfl (by simp) rfl rfl (Nat.le_refl _) ⟨rfl, rfl, rfl⟩

theorem Remarks.quiet {world later : World} {occurrences : List Occurrence}
    (remarks : Remarks world occurrences later) : Quiet world occurrences later :=
  .of_eq remarks.trace (fun occurrence member => Occurrence.isQuiet_of_isRemark (remarks.remarks occurrence member))
    remarks.hosts remarks.collectors (Nat.le_of_eq remarks.fresh.symm) (by rw [remarks.names]; exact ⟨rfl, rfl, rfl⟩)

/-- What shows that a capture has begun. -/
def Nesting.occurrence (id : HostId) (unit : String) : Nesting → Occurrence
  | outermost => .armed id unit
  | nested depth => .nested id unit depth

/-- What shows that a level has ended, by what came of it. Of a set that is
given out the trace keeps only how large it was. -/
def Ending.occurrence (id : HostId) : Ending → Occurrence
  | unarmed => .endedUnarmed id
  | nested => .levelEnded id
  | outermost recorded => .disarmed id recorded.size

/-- What happens to a host, with what shows it. Calls, their delivery, the
mode, the listener, levels by hand and lockouts are moves; captures and method
bodies are not, as they enclose what happens inside them. Each constructor has
the changed host written out, so that an invariant of hosts is checked case by
case without running anything. -/
inductive HostMove (id : HostId) (host : Host Form) : List Occurrence → Host Form → Prop
  /-- A call is resolved; nobody hears of it. -/
  | unheard {signature} : host.isCompiled = false ∨ host.listener = none →
      HostMove id host [.invoked id host.mode signature] host
  | collected {signature collector} : host.isCompiled = true → host.listener = some (.collector collector) →
      HostMove id host [.invoked id host.mode signature, .delivered id signature] host
  | recorded {signature} : host.isCompiled = true → host.listener = some .recorder →
      HostMove id host ([.invoked id host.mode signature, .delivered id signature] ++
        if host.reports signature then [.captured id signature] else []) (host.hear signature)
  | registered {method} : HostMove id host [] { host with table := host.table.register method }
  | switched {mode} : HostMove id host [.modeSet id mode] (host.setMode mode)
  | hooked {collector} :
      HostMove id host [.hookInstalled id] { host with listener := some (.collector collector) }
  | unhooked : HostMove id host [.hookRemoved id] { host with listener := none }
  | begunByHand {thread unit verbose nesting changed} :
      host.beginCapture? thread verbose = some (nesting, changed) →
      HostMove id host [.monitorUsed id, nesting.occurrence id unit] changed
  | refusedByHand {unit} : HostMove id host [.monitorUsed id, .refused id unit] host
  | endedByHand : HostMove id host [.monitorUsed id, host.endCapture.1.occurrence id] host.endCapture.2
  | lockHeld {name} :
      HostMove id host [.locked id host.mode, .held ⟨name, none, id, host.mode⟩] (host.setMode .forced)
  | lockLetGo {name previous} :
      HostMove id host [.letGo ⟨name, none, id, previous⟩, .released id previous] (host.setMode previous)

/-- One host has changed, and no other. Names and numbers stay as they are;
sinks, flags and files may change. -/
structure Moved (world : World) (id : HostId) (changed : Host Form) (occurrences : List Occurrence) (later : World) :
    Prop where
  trace : later.trace = occurrences.reverse ++ world.trace
  hosts : ∀ other, later.hosts.get other = if other = id then changed else world.hosts.get other
  fresh : later.fresh = world.fresh
  names : later.names = world.names

theorem Moved.put (world : World) (id : HostId) (changed : Host Form) (occurrences : List Occurrence) :
    Moved world id changed occurrences
      { world with hosts := world.hosts.put id changed, trace := occurrences.reverse ++ world.trace } :=
  ⟨rfl, fun other => Store.get_put world.hosts id other changed, rfl, rfl⟩

theorem Moved.unchanged {world later : World} {id : HostId} {occurrences : List Occurrence}
    (trace : later.trace = occurrences.reverse ++ world.trace) (hosts : later.hosts = world.hosts)
    (fresh : later.fresh = world.fresh) (names : later.names = world.names) :
    Moved world id (world.hosts.get id) occurrences later where
  trace := trace
  hosts other := by
    rw [hosts]
    split
    · subst other; rfl
    · rfl
  fresh := fresh
  names := names

theorem Moved.get_self {world later : World} {id : HostId} {changed : Host Form} {occurrences : List Occurrence}
    (moved : Moved world id changed occurrences later) : later.hosts.get id = changed := by
  rw [moved.hosts, if_pos rfl]

/-- A view of the hosts that a move does not change. To show that a course
keeps something of a host, it is enough to look at the hosts that its moves
are about. Any invariant of single hosts is carried over in this way. -/
theorem Moved.same {world later : World} {id : HostId} {changed : Host Form} {occurrences : List Occurrence}
    {Seen : Type} (moved : Moved world id changed occurrences later) (view : Host Form → Seen)
    (kept : view changed = view (world.hosts.get id)) (other : HostId) :
    view (later.hosts.get other) = view (world.hosts.get other) := by
  rw [moved.hosts]
  split
  · rename_i self
    rw [kept, self]
  · rfl

theorem Moved.get_of_ne {world later : World} {id other : HostId} {changed : Host Form} {occurrences : List Occurrence}
    (moved : Moved world id changed occurrences later) (different : other ≠ id) :
    later.hosts.get other = world.hosts.get other := by
  rw [moved.hosts, if_neg different]

/-- A capture claims its host, and forces its engine to compile. The two
may be different hosts, as a precompiler can be given a monitor of another
one. The level comes first and the mode second, as the monitor may refuse
and the engine cannot. -/
inductive Opens (guard : Guard) : World → List Occurrence → World → Prop
  | intro {world claimed later thread verbose changed}
      (begun : (world.hosts.get guard.precompiler.monitor).beginCapture? thread verbose =
        some (guard.nesting, changed))
      (claim : Moved world guard.precompiler.monitor changed
        [guard.nesting.occurrence guard.precompiler.monitor guard.precompiler.unit] claimed)
      (previous : guard.previous = (claimed.hosts.get guard.precompiler.engine).mode)
      (lock : Moved claimed guard.precompiler.engine ((claimed.hosts.get guard.precompiler.engine).setMode .forced)
        [.locked guard.precompiler.engine guard.previous] later) :
      Opens guard world
        [guard.nesting.occurrence guard.precompiler.monitor guard.precompiler.unit,
          .locked guard.precompiler.engine guard.previous] later

namespace Guard

/-- What is said before a capture's signatures are handed over. It is in the
log whether the sink takes them or not. -/
def emitting (guard : Guard) (signatures : List Signature) : Occurrence :=
  .emitting guard.precompiler.unit guard.precompiler.artifact signatures.length

/-- What shows that a capture's signatures are handed over to its sink.
It names the host of the capture, so that hand-overs of several hosts
can be told apart. -/
def handedOver (guard : Guard) (signatures : List Signature) : Occurrence :=
  .handedOver guard.precompiler.monitor guard.precompiler.sink guard.precompiler.artifact signatures

end Guard

/-- What was recorded is handed over for a capture; then there are only
remarks. The sink is called once, whatever it answers. A refused emission has
been handed over as well; what tells the two apart is among the remarks. -/
def Emits (guard : Guard) (signatures : List Signature) (world : World) (occurrences : List Occurrence)
    (later : World) : Prop :=
  ∃ remarks, occurrences = [guard.emitting signatures, guard.handedOver signatures] ++ remarks ∧
    Remarks ((world.noting (guard.emitting signatures)).noting (guard.handedOver signatures)) remarks later

theorem Emits.append {guard : Guard} {signatures : List Signature} {world middle later : World}
    {first rest : List Occurrence} (emits : Emits guard signatures world first middle)
    (said : Remarks middle rest later) : Emits guard signatures world (first ++ rest) later := by
  obtain ⟨remarks, rfl, before⟩ := emits
  exact ⟨remarks ++ rest, by rw [List.append_assoc], before.trans said⟩

/-- A capture ends a level of its host and puts the mode of its engine back.
If the level was the last, what was recorded is handed over. The order is that
of the program: level, mode, sink. -/
inductive Closes (guard : Guard) : World → List Occurrence → World → Prop
  | intro {world ended released later emission}
      (level : Moved world guard.precompiler.monitor (world.hosts.get guard.precompiler.monitor).endCapture.2
        [(world.hosts.get guard.precompiler.monitor).endCapture.1.occurrence guard.precompiler.monitor] ended)
      (unlock : Moved ended guard.precompiler.engine
        ((ended.hosts.get guard.precompiler.engine).setMode guard.previous)
        [.released guard.precompiler.engine guard.previous] released)
      (rest : match (world.hosts.get guard.precompiler.monitor).endCapture.1 with
        | .outermost recorded => Emits guard recorded.signatures released emission later
        | _ => emission = [] ∧ later = released) :
      Closes guard world
        ([(world.hosts.get guard.precompiler.monitor).endCapture.1.occurrence guard.precompiler.monitor,
          .released guard.precompiler.engine guard.previous] ++ emission) later

/-- What may happen between two worlds. Method bodies and captures enclose a
course of their own; a capture that is held by hand ends when it is let go.
Every invariant of a session is proved by one induction on this relation, so
that a new form of a session needs only to be shown to be a course. -/
inductive Course : World → List Occurrence → World → Prop
  | quiet {world occurrences later} : Quiet world occurrences later → Course world occurrences later
  | next {world first middle rest later} : Course world first middle → Course middle rest later →
      Course world (first ++ rest) later
  | move {world id occurrences changed later} : HostMove id (world.hosts.get id) occurrences changed →
      Moved world id changed occurrences later → Course world occurrences later
  | method {world id opened inside closed later} :
      Moved world id (world.hosts.get id).enter [.entered id] opened → Course opened inside closed →
      Moved closed id (closed.hosts.get id).leave [.left id] later →
      Course world ([.entered id] ++ inside ++ [.left id]) later
  | captured {world guard opening opened inside closed closing later} :
      Opens guard world opening opened → Course opened inside closed → Closes guard closed closing later →
      Course world (opening ++ inside ++ closing) later
  | kept {world guard name opening opened} : Opens guard world opening opened →
      Course world (opening ++ [.held (guard.holding name)]) (opened.noting (.held (guard.holding name)))
  | givenUp {world guard name closing later} :
      Closes guard (world.noting (.letGo (guard.holding name))) closing later →
      Course world ([.letGo (guard.holding name)] ++ closing) later

theorem Opens.trace {guard : Guard} {world opened : World} {opening : List Occurrence}
    (opens : Opens guard world opening opened) : opened.trace = opening.reverse ++ world.trace := by
  cases opens with
  | intro _ claim _ lock => rw [lock.trace, claim.trace]; rfl

theorem Opens.fresh {guard : Guard} {world opened : World} {opening : List Occurrence}
    (opens : Opens guard world opening opened) : opened.fresh = world.fresh := by
  cases opens with
  | intro _ claim _ lock => rw [lock.fresh, claim.fresh]

theorem Opens.names {guard : Guard} {world opened : World} {opening : List Occurrence}
    (opens : Opens guard world opening opened) : opened.names = world.names := by
  cases opens with
  | intro _ claim _ lock => rw [lock.names, claim.names]

/-- What follows the end of the level and the unlocking changes no host and no
name. What is known of the two moves is thereby known of the whole. -/
theorem Closes.emission {guard : Guard} {world later : World} {closing : List Occurrence}
    (closes : Closes guard world closing later) :
    ∃ ended released emission,
      Moved world guard.precompiler.monitor (world.hosts.get guard.precompiler.monitor).endCapture.2
        [(world.hosts.get guard.precompiler.monitor).endCapture.1.occurrence guard.precompiler.monitor] ended ∧
      Moved ended guard.precompiler.engine ((ended.hosts.get guard.precompiler.engine).setMode guard.previous)
        [.released guard.precompiler.engine guard.previous] released ∧
      closing = [(world.hosts.get guard.precompiler.monitor).endCapture.1.occurrence guard.precompiler.monitor,
        .released guard.precompiler.engine guard.previous] ++ emission ∧
      later.trace = emission.reverse ++ released.trace ∧ later.hosts = released.hosts ∧
      later.fresh = released.fresh ∧ later.names = released.names := by
  cases closes with
  | @intro ended released _ emission level unlock rest =>
    refine ⟨ended, released, emission, level, unlock, rfl, ?_⟩
    split at rest
    · obtain ⟨remarks, rfl, said⟩ := rest
      refine ⟨?_, said.hosts, said.fresh, said.names⟩
      rw [said.trace, List.reverse_append, List.append_assoc]
      rfl
    · obtain ⟨rfl, rfl⟩ := rest
      exact ⟨rfl, rfl, rfl, rfl⟩

theorem Closes.trace {guard : Guard} {world later : World} {closing : List Occurrence}
    (closes : Closes guard world closing later) : later.trace = closing.reverse ++ world.trace := by
  obtain ⟨_, _, _, level, unlock, rfl, trace, _⟩ := closes.emission
  rw [trace, unlock.trace, level.trace, List.reverse_append, List.append_assoc]
  rfl

theorem Closes.fresh {guard : Guard} {world later : World} {closing : List Occurrence}
    (closes : Closes guard world closing later) : later.fresh = world.fresh := by
  obtain ⟨_, _, _, level, unlock, _, _, _, fresh, _⟩ := closes.emission
  rw [fresh, unlock.fresh, level.fresh]

theorem Closes.names {guard : Guard} {world later : World} {closing : List Occurrence}
    (closes : Closes guard world closing later) : later.names = world.names := by
  obtain ⟨_, _, _, level, unlock, _, _, _, _, names⟩ := closes.emission
  rw [names, unlock.names, level.names]

/-- A course shows all that happens in it. Nothing that happens is left out,
and nothing is shown that has not happened. -/
theorem Course.trace {world later : World} {occurrences : List Occurrence}
    (course : Course world occurrences later) : later.trace = occurrences.reverse ++ world.trace := by
  induction course with
  | quiet quiet => exact quiet.trace
  | next _ _ before behind => rw [behind, before, List.reverse_append, List.append_assoc]
  | move _ moved => exact moved.trace
  | method opened _ closed inside =>
    rw [closed.trace, inside, opened.trace]
    simp only [List.reverse_append, List.append_assoc]
  | captured opens _ closes inside =>
    rw [closes.trace, inside, opens.trace]
    simp only [List.reverse_append, List.append_assoc]
  | kept opens => simp only [World.noting, opens.trace, List.reverse_append, List.append_assoc]; rfl
  | givenUp closes => rw [closes.trace, List.reverse_append, List.append_assoc]; rfl

theorem Course.fresh_le {world later : World} {occurrences : List Occurrence}
    (course : Course world occurrences later) : world.fresh ≤ later.fresh := by
  induction course with
  | quiet quiet => exact quiet.fresh
  | next _ _ before behind => exact Nat.le_trans before behind
  | move _ moved => exact Nat.le_of_eq moved.fresh.symm
  | method opened _ closed inside => rwa [closed.fresh, ← opened.fresh]
  | captured opens _ closes inside => rwa [closes.fresh, ← opens.fresh]
  | kept opens => exact Nat.le_of_eq opens.fresh.symm
  | givenUp closes => exact Nat.le_of_eq closes.fresh.symm

theorem Course.made {world later : World} {occurrences : List Occurrence} {id : HostId}
    (course : Course world occurrences later) (made : world.Made id) : later.Made id :=
  Nat.lt_of_lt_of_le made course.fresh_le

theorem World.NamesMade.of_eq {world later : World} (made : world.NamesMade) (names : later.names = world.names)
    (fresh : later.fresh = world.fresh) : later.NamesMade :=
  made.mono ⟨by rw [names], by rw [names], by rw [names]⟩ (Nat.le_of_eq fresh.symm)

/-- Names lead to hosts that are there, all along a course. A host gets its
number before it gets its name. -/
theorem Course.namesMade {world later : World} {occurrences : List Occurrence}
    (course : Course world occurrences later) (made : world.NamesMade) : later.NamesMade := by
  induction course with
  | quiet quiet => exact quiet.names made
  | next _ _ before behind => exact behind (before made)
  | move _ moved => exact made.of_eq moved.names moved.fresh
  | method opened _ closed inside =>
    exact (inside (made.of_eq opened.names opened.fresh)).of_eq closed.names closed.fresh
  | captured opens _ closes inside =>
    exact (inside (made.of_eq opens.names opens.fresh)).of_eq closes.names closes.fresh
  | kept opens => exact made.of_eq opens.names opens.fresh
  | givenUp closes => exact made.of_eq closes.names closes.fresh

end CallCapture
