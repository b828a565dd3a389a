import CallCapture.Proofs.Transparency
import Mathlib.Logic.Function.Iterate

namespace CallCapture

/-- Workloads within each other around a body, the outermost first. Each is
named by its precompiler. -/
def Form.tower (names : List String) (body : Form) : Form := names.foldr Form.compile body

namespace Precompiler

/-- The world in which captures have been opened, one after the other. A
refusal, or a closed gate, opens nothing and is gone over. -/
def opening (thread : ThreadId) (levels : List Precompiler) (world : World) : World :=
  levels.foldl (fun world level => (level.beginCapture thread).after world) world

/-- Each gate is open when its turn comes. Those further in are asked in the
world that the outer ones have left. -/
def GatesOpen (thread : ThreadId) : List Precompiler → World → Prop
  | [], _ => True
  | level :: inner, world => (∃ flags, level.gate.outcome world = .ok (some flags)) ∧
      GatesOpen thread inner ((level.beginCapture thread).after world)

/-- The gates of a tower are those of its lower part and, behind the openings
of these, those of its upper part. -/
theorem gatesOpen_append {thread : ThreadId} {outer inner : List Precompiler} {world : World} :
    GatesOpen thread (outer ++ inner) world ↔
      GatesOpen thread outer world ∧ GatesOpen thread inner (opening thread outer world) := by
  induction outer generalizing world with
  | nil => exact (iff_of_eq (true_and _)).symm
  | cons level outer ih => exact (and_congr_right fun _ => ih).trans and_assoc.symm

end Precompiler

/-- A thread has opened levels of a host that it keeps to itself, and no sink
has been called. From it follows that the next one is not refused either. -/
structure Climbs (id : HostId) (thread : ThreadId) (levels : Nat) (world later : World) : Prop where
  level : (later.hosts.get id).level = (world.hosts.get id).level + levels
  own : ¬ (later.hosts.get id).HeldAgainst thread
  names : later.names = world.names
  fresh : later.fresh = world.fresh
  handed : ∃ opening, later.trace = opening.reverse ++ world.trace ∧ handOvers opening = []

theorem Climbs.trans {id : HostId} {thread : ThreadId} {lower upper : Nat} {world middle later : World}
    (first : Climbs id thread lower world middle) (rest : Climbs id thread upper middle later) :
    Climbs id thread (lower + upper) world later where
  level := by rw [rest.level, first.level, Nat.add_assoc]
  own := rest.own
  names := rest.names.trans first.names
  fresh := rest.fresh.trans first.fresh
  handed := by
    obtain ⟨early, before, none⟩ := first.handed
    obtain ⟨late, behind, nothing⟩ := rest.handed
    refine ⟨early ++ late, ?_, ?_⟩
    · rw [behind, before, List.reverse_append, List.append_assoc]
    · rw [handOvers_append, none, nothing, List.append_nil]

/-- A host on which a thread has begun a capture is not held against this
thread: it was free or its own before. -/
theorem Host.beginCapture?_own {host changed : Host Form} {thread : ThreadId} {verbose : Bool} {nesting : Nesting}
    (begun : host.beginCapture? thread verbose = some (nesting, changed)) : ¬ changed.HeldAgainst thread := by
  rintro ⟨armed, claimed, other⟩
  cases before : host.armed with
  | none =>
    obtain ⟨_, rfl⟩ := beginCapture?_unarmed before begun
    cases claimed
    exact other rfl
  | some old =>
    unfold beginCapture? at begun
    rw [before] at begun
    dsimp only at begun
    split at begun
    · rename_i own
      cases begun
      cases claimed
      exact other own
    · cases begun

theorem Host.heldAgainst_congr {host other : Host Form} {thread : ThreadId} (same : other.armed = host.armed) :
    other.HeldAgainst thread ↔ host.HeldAgainst thread := by
  unfold HeldAgainst
  rw [same]

theorem Opens.handOvers {guard : Guard} {world opened : World} {opening : List Occurrence}
    (opens : Opens guard world opening opened) : handOvers opening = [] := by
  cases opens with
  | intro =>
    unfold Nesting.occurrence
    split <;> rfl

namespace Precompiler

open Act

variable {precompiler : Precompiler} {thread : ThreadId} {world : World}

theorem beginCapture_own {flags : Flags} (gate : precompiler.gate.outcome world = .ok (some flags))
    (own : ¬ (world.hosts.get precompiler.monitor).HeldAgainst thread) :
    ¬ (((precompiler.beginCapture thread).after world).hosts.get precompiler.monitor).HeldAgainst thread := by
  obtain ⟨guard, begun⟩ := beginCapture_accepted gate own
  obtain ⟨changed, claims, armed, _⟩ := beginCapture_claims gate (Prod.ext begun rfl)
  exact mt (Host.heldAgainst_congr armed).mp (Host.beginCapture?_own claims)

/-- A capture that may begin adds one level to its host, and the next one of
the same thread may begin on top of it. -/
theorem beginCapture_climbs {flags : Flags} (gate : precompiler.gate.outcome world = .ok (some flags))
    (own : ¬ (world.hosts.get precompiler.monitor).HeldAgainst thread) : ∃ guard,
    (precompiler.beginCapture thread).outcome world = .ok (some guard) ∧ guard.precompiler = precompiler ∧
      Climbs precompiler.monitor thread 1 world ((precompiler.beginCapture thread).after world) := by
  obtain ⟨guard, begun⟩ := beginCapture_accepted gate own
  have mine := beginCapture_own gate own
  have begins := precompiler.beginCapture_begins thread world
  refine ⟨guard, begun, ?_⟩
  rw [begun] at begins
  generalize (precompiler.beginCapture thread).after world = later at mine begins
  cases begins with
  | @opened _ remarks _ opening _ same said opens =>
    subst same
    refine ⟨rfl, ?_, mine, opens.names.trans said.names, opens.fresh.trans said.fresh, remarks ++ opening, ?_, ?_⟩
    · have raised : guard.levelOn guard.precompiler.monitor = 1 := if_pos rfl
      rw [opens.level, said.hosts, raised]
    · rw [opens.trace, said.trace, List.reverse_append, List.append_assoc]
    · rw [handOvers_append, said.handOvers, opens.handOvers, List.append_nil]

theorem opening_climbs {id : HostId} {levels : List Precompiler} (one : ∀ level ∈ levels, level.monitor = id)
    (own : ¬ (world.hosts.get id).HeldAgainst thread) (gates : GatesOpen thread levels world) :
    Climbs id thread levels.length world (opening thread levels world) := by
  induction levels generalizing world with
  | nil => exact ⟨rfl, own, rfl, rfl, [], rfl, rfl⟩
  | cons level inner ih =>
    obtain ⟨rfl, same⟩ := List.forall_mem_cons.mp one
    obtain ⟨⟨flags, gate⟩, rest⟩ := gates
    obtain ⟨guard, _, _, climbs⟩ := beginCapture_climbs gate own
    have above := climbs.trans (ih same climbs.own rest)
    rwa [Nat.add_comm] at above

end Precompiler

/-- Levels of a host have been closed below its last, and no sink has been
called. What was recorded is still all there. -/
structure Unwinds (id : HostId) (levels : Nat) (world later : World) : Prop where
  level : (world.hosts.get id).level = (later.hosts.get id).level + levels
  recorded : (later.hosts.get id).recorded = (world.hosts.get id).recorded
  sinks : later.sinks = world.sinks
  files : later.files = world.files
  handed : ∃ closing, later.trace = closing.reverse ++ world.trace ∧ handOvers closing = []

theorem Unwinds.trans {id : HostId} {upper lower : Nat} {world middle later : World}
    (first : Unwinds id upper world middle) (rest : Unwinds id lower middle later) :
    Unwinds id (upper + lower) world later where
  level := by rw [first.level, rest.level, Nat.add_assoc, Nat.add_comm lower upper]
  recorded := rest.recorded.trans first.recorded
  sinks := rest.sinks.trans first.sinks
  files := rest.files.trans first.files
  handed := by
    obtain ⟨early, before, none⟩ := first.handed
    obtain ⟨late, behind, nothing⟩ := rest.handed
    refine ⟨early ++ late, ?_, ?_⟩
    · rw [behind, before, List.reverse_append, List.append_assoc]
    · rw [handOvers_append, none, nothing, List.append_nil]

open Act in
theorem Guard.disarm_sinks {guard : Guard} {world : World} {armed : Armed} {below : Nat}
    (claimed : (world.hosts.get guard.precompiler.monitor).armed = some armed) (deep : armed.depth = below + 1) :
    (guard.disarm.after world).sinks = world.sinks ∧ (guard.disarm.after world).files = world.files := by
  obtain ⟨ended, _⟩ := endLevel_ended guard.precompiler.monitor world
  obtain ⟨released, _⟩ := unlock_released guard.precompiler.engine guard.previous
    ((endLevel guard.precompiler.monitor).after world)
  rw [guard.disarm_eq, after_bind_ok ended, after_bind_ok released, Host.endCapture_nested claimed deep]
  exact endLevel_sinks guard.precompiler.monitor world

open Act in
/-- A guard that is dropped leaves the sinks and the files that it would leave
if it were disarmed. -/
theorem Guard.drop_sinks (guard : Guard) (world : World) :
    (guard.drop.after world).sinks = (guard.disarm.after world).sinks ∧
      (guard.drop.after world).files = (guard.disarm.after world).files := by
  unfold Guard.drop
  rw [after_bind_ok (outcome_attempt guard.disarm world), after_attempt]
  generalize guard.disarm.after world = behind
  rcases guard.disarm.outcome world with (_ | _ | _ | _) | _ <;> exact ⟨rfl, rfl⟩

namespace Context

open Act

/-- The workloads of a tower end with what its body came to, the innermost
first. Each end is told what the one inside has come to. -/
def finishTower : List Guard → Except Halt Value → Act Value
  | [], outcome => resume outcome
  | guard :: inner, outcome => do finishWorkload guard (← attempt (finishTower inner outcome))

theorem finishTower_run (guard : Guard) (inner : List Guard) (outcome : Except Halt Value) (world : World) :
    (finishTower (guard :: inner) outcome).run world =
      (finishWorkload guard ((finishTower inner outcome).outcome world)).run ((finishTower inner outcome).after world) :=
  rfl

/-- However a workload ends, what becomes of sinks and files is what disarming
its guard does to them. -/
theorem finishWorkload_sinks (guard : Guard) (outcome : Except Halt Value) (world : World) :
    ((finishWorkload guard outcome).after world).sinks = (guard.disarm.after world).sinks ∧
      ((finishWorkload guard outcome).after world).files = (guard.disarm.after world).files := by
  unfold finishWorkload
  match outcome with
  | .ok value =>
    dsimp only
    rw [after_bind, after_discard]
    generalize guard.disarm.after world = behind
    split <;> exact ⟨rfl, rfl⟩
  | .error (.error error) =>
    dsimp only
    rw [after_bind_ok (outcome_attempt guard.disarm world), after_attempt]
    generalize guard.disarm.after world = behind
    rcases guard.disarm.outcome world with (_ | _ | _ | _) | _ <;> exact ⟨rfl, rfl⟩
  | .error (.panic _) | .error (.unbound _) | .error .exhausted =>
    dsimp only
    rw [after_bind]
    obtain ⟨sinks, files⟩ := guard.drop_sinks world
    revert sinks files
    generalize guard.drop.after world = behind
    intro sinks files
    split <;> exact ⟨sinks, files⟩

/-- A workload that is not the outermost one calls no sink; it comes to what
its body came to. -/
theorem finishWorkload_nested {guard : Guard} {world : World} {depth : Nat}
    (level : (world.hosts.get guard.precompiler.monitor).level = depth + 1 + 1) (outcome : Except Halt Value) :
    (finishWorkload guard outcome).outcome world = workloadOutcome outcome ∧
      Unwinds guard.precompiler.monitor 1 world ((finishWorkload guard outcome).after world) := by
  obtain ⟨armed, claimed, deep⟩ := Host.armed_of_level level
  have disarmed : guard.disarm.outcome world = .ok none := by
    rw [Guard.disarm_outcome claimed, deep]
    rfl
  obtain ⟨sinks, files⟩ := guard.disarm_sinks claimed deep
  obtain ⟨same, also⟩ := finishWorkload_sinks guard outcome world
  have closes := finishWorkload_closesQuietly guard outcome world
  have own : guard.levelOn guard.precompiler.monitor = 1 := if_pos rfl
  refine ⟨finishWorkload_outcome disarmed outcome, ?_⟩
  obtain ⟨closing, closed, remarks, ends, said⟩ := closes
  refine ⟨?_, ?_, same.trans sinks, also.trans files, closing ++ remarks, ?_, ?_⟩
  · rw [said.hosts, ends.level, own, level]
    rfl
  · have below := congrArg Host.armed (ends.get_nested claimed (by rw [own, deep]))
    rw [said.hosts, Host.recorded_armed below, Host.recorded_armed claimed]
  · rw [said.trace, ends.trace, List.reverse_append, List.append_assoc]
  · rw [handOvers_append, ends.handOvers_nested claimed deep, said.handOvers, List.append_nil]

/-- All workloads of a tower but the outermost one end so, by
induction on them. -/
theorem finishTower_unwinds {id : HostId} {guards : List Guard} (one : ∀ guard ∈ guards, guard.precompiler.monitor = id)
    {world : World} {depth : Nat} (level : (world.hosts.get id).level = depth + 1 + guards.length)
    (outcome : Except Halt Value) :
    (finishTower guards outcome).outcome world = workloadOutcome^[guards.length] outcome ∧
      Unwinds id guards.length world ((finishTower guards outcome).after world) := by
  induction guards generalizing depth with
  | nil => exact ⟨rfl, rfl, rfl, rfl, rfl, [], rfl, rfl⟩
  | cons guard inner ih =>
    obtain ⟨rfl, same⟩ := List.forall_mem_cons.mp one
    obtain ⟨before, unwinds⟩ := @ih same (depth + 1) (by rw [level, List.length_cons]; omega)
    have left : (((finishTower inner outcome).after world).hosts.get guard.precompiler.monitor).level =
        depth + 1 + 1 := by
      have height := unwinds.level
      rw [level, List.length_cons] at height
      omega
    obtain ⟨ended, last⟩ := finishWorkload_nested left ((finishTower inner outcome).outcome world)
    unfold Act.outcome at ended
    unfold Act.outcome Act.after
    rw [finishTower_run, List.length_cons, Function.iterate_succ_apply', ← before]
    exact ⟨ended, unwinds.trans last⟩

/-- What a captured workload that calls its sink comes to, by what its body
came to and what the sink answers. A failure of the body wins, and an error of
the sink comes out only behind a success. -/
def surfaced (outcome : Except Halt Value) (answer : Except Error Unit) : Except Halt Value :=
  match outcome, answer with
  | .ok value, .ok () => workloadOutcome (.ok value)
  | .ok _, .error error => .error (.error error)
  | .error halt, _ => .error halt

/-- A sink that rejects takes the place of what the body came to only if the
body has succeeded. -/
theorem finishWorkload_rejected {guard : Guard} {world : World} {error : Error}
    (disarmed : guard.disarm.outcome world = .error (.error error)) (outcome : Except Halt Value) :
    (finishWorkload guard outcome).outcome world = surfaced outcome (.error error) := by
  have attempted : (attempt guard.disarm).outcome world = .ok (.error (.error error)) := by
    rw [outcome_attempt, disarmed]
  have dropped : guard.drop.outcome world = .ok () := by
    unfold Guard.drop
    rw [outcome_bind_ok attempted]
    rfl
  unfold finishWorkload
  match outcome with
  | .ok value =>
    have discarded : (discard guard.disarm).outcome world = .error (.error error) := by
      rw [outcome_discard, disarmed]
      rfl
    rw [outcome_bind_error discarded]
    rfl
  | .error (.error error) =>
    rw [outcome_bind_ok attempted]
    rfl
  | .error (.panic _) | .error (.unbound _) | .error .exhausted =>
    rw [outcome_bind_ok dropped]
    rfl

/-- The outermost workload calls its sink once with what was recorded,
whatever its body came to. A failure of the body keeps nothing from
being handed over. -/
theorem finishWorkload_last {guard : Guard} {world : World}
    (level : (world.hosts.get guard.precompiler.monitor).level = 1) (outcome : Except Halt Value) :
    let emission : Emission := ⟨guard.precompiler.artifact, (world.hosts.get guard.precompiler.monitor).recorded⟩
    (finishWorkload guard outcome).outcome world =
        surfaced outcome (sinkAnswer guard.precompiler.sink emission world) ∧
      ∃ closing, ((finishWorkload guard outcome).after world).trace = closing.reverse ++ world.trace ∧
        handOvers closing = [⟨some guard.precompiler.monitor, guard.precompiler.sink, emission⟩] := by
  intro emission
  obtain ⟨armed, claimed, lowest⟩ := Host.armed_of_level level
  have disarmed := Guard.disarm_outcome claimed
  obtain ⟨closing, closed, remarks, ends, said⟩ := finishWorkload_closesQuietly guard outcome world
  refine ⟨?_, closing ++ remarks, ?_, ?_⟩
  · unfold Guard.finishing at disarmed
    rw [if_pos (decide_eq_true lowest)] at disarmed
    dsimp only at disarmed
    cases answer : sinkAnswer guard.precompiler.sink emission world with
    | error error =>
      rw [answer] at disarmed
      exact finishWorkload_rejected disarmed outcome
    | ok _ =>
      rw [answer] at disarmed
      rw [finishWorkload_outcome disarmed outcome]
      cases outcome <;> rfl
  · rw [said.trace, ends.trace, List.reverse_append, List.append_assoc]
  · rw [handOvers_append, ends.handOvers claimed lowest, said.handOvers, ← Host.recorded_armed claimed]
    rfl

end Context

/-- Captures within a level of a host hand nothing over for it. What is held
by hand may be let go in any order, but for the captures of this host. -/
theorem Course.handOversOf_nested {world later : World} {occurrences : List Occurrence} {id : HostId}
    (course : Course world occurrences later) (made : world.Made id) (byHand : .monitorUsed id ∉ occurrences)
    {held last : List Holding} (holds : heldAfter held (capturesHandled id occurrences) = some last) {around : Nat}
    (level : (world.hosts.get id).level = around + 1 + held.length) : handOversOf id occurrences = [] := by
  induction course generalizing held last around with
  | quiet quiet => exact (quiet.silent id).2
  | next before _ first rest =>
    rw [List.mem_append, not_or] at byHand
    rw [capturesHandled_append] at holds
    obtain ⟨between, holdsFirst, holdsRest⟩ := heldAfter_append_eq_some.mp holds
    have middle := before.level made byHand.1 holdsFirst level
    rw [handOversOf_append, first made byHand.1 holdsFirst level, rest (before.made made) byHand.2 holdsRest middle]
    rfl
  | move move => exact move.keeps id
  | method enters _ _ inside =>
    rw [List.mem_append, List.mem_append, not_or, not_or] at byHand
    rw [capturesHandled_method] at holds
    rw [handOversOf_append, handOversOf_append, inside (Nat.lt_of_lt_of_eq made enters.fresh.symm) byHand.1.2 holds
      ((enters.same Host.level rfl id).trans level)]
    rfl
  | @captured _ guard _ opened _ _ _ _ opens during closes inside =>
    rw [List.mem_append, not_or, List.mem_append, not_or] at byHand
    rw [capturesHandled_around opens closes] at holds
    have openedMade : opened.Made id := Nat.lt_of_lt_of_eq made opens.fresh.symm
    have raised : (opened.hosts.get id).level = around + guard.levelOn id + 1 + held.length := by
      rw [opens.level, level]
      omega
    have lasting := during.level openedMade byHand.1.2 holds raised
    obtain ⟨armed, claimed, deep⟩ :=
      @Host.armed_of_level _ (around + last.length + guard.levelOn id) (by rw [lasting]; omega)
    rw [handOversOf_append, handOversOf_append, (opens.silent id).2, inside openedMade byHand.1.2 holds raised,
      closes.keeps claimed deep]
    rfl
  | @kept _ guard name _ _ opens =>
    rw [handOversOf_append, (opens.silent id).2]
    rfl
  | @givenUp _ guard name _ _ closes =>
    have shorter := closes.length_givenUp holds
    obtain ⟨armed, claimed, deep⟩ :=
      @Host.armed_of_level _ (around + last.length + guard.levelOn id) (by rw [level]; omega)
    rw [handOversOf_append, closes.keeps claimed deep]
    rfl

theorem handOversOf_last {id : HostId} {occurrences inside : List Occurrence} {call : HandOver}
    (calls : handOvers occurrences = handOvers inside ++ [call]) (nothing : handOversOf id inside = [])
    (own : call.source = some id) : handOversOf id occurrences = [call] := by
  unfold handOversOf at nothing ⊢
  rw [calls, List.filter_append, nothing, List.nil_append, List.filter_eq_self]
  exact List.forall_mem_singleton.mpr (decide_eq_true own)

namespace Context

variable {id : HostId} {levels : List (String × Precompiler)} {world : World} {context : Context}

open Precompiler Form

/-- The body of a tower is evaluated once, behind the openings of all its
workloads; then these end. From there on, openings, body and ends can be
looked at one after the other. -/
theorem tower_run (one : ∀ level ∈ levels, level.2.monitor = id)
    (known : ∀ level ∈ levels, world.names.precompilers.lookup level.1 = some level.2)
    (own : ¬ (world.hosts.get id).HeldAgainst context.thread)
    (gates : GatesOpen context.thread (levels.map Prod.snd) world) (fuel : Nat) (body : Form) :
    let entered := opening context.thread (levels.map Prod.snd) world
    ∃ guards : List Guard, guards.map Guard.precompiler = levels.map Prod.snd ∧
      (eval (fuel + levels.length) context (tower (levels.map Prod.fst) body)).run world =
        (finishTower guards ((eval fuel context body).outcome entered)).run ((eval fuel context body).after entered) := by
  induction levels generalizing world with
  | nil => exact ⟨[], rfl, rfl⟩
  | cons level inner ih =>
    obtain ⟨rfl, same⟩ := List.forall_mem_cons.mp one
    obtain ⟨found, others⟩ := List.forall_mem_cons.mp known
    obtain ⟨⟨flags, gate⟩, rest⟩ := gates
    obtain ⟨guard, begun, opened, climbs⟩ := beginCapture_climbs gate own
    rw [← climbs.names] at others
    obtain ⟨guards, mine, ran⟩ := ih same others climbs.own rest
    have outer := (eval_compile_run found (fuel + inner.length) context (tower (inner.map Prod.fst) body)).trans
      (compile_run begun _)
    refine ⟨guard :: guards, by rw [List.map_cons, List.map_cons, opened, mine], outer.trans ?_⟩
    unfold Act.outcome Act.after at ran ⊢
    rw [finishTower_run, ran]
    rfl

/-- Workloads within a captured one call no sink beside those that their body
calls, and come to what it comes to. The set of the host is what the body
leaves, so the outermost workload finds all of it. -/
structure Nested (context : Context) (id : HostId) (levels : List (String × Precompiler)) (fuel : Nat) (body : Form)
    (world entered : World) : Prop where
  outcome : (eval (fuel + levels.length) context (tower (levels.map Prod.fst) body)).outcome world =
    workloadOutcome^[levels.length] ((eval fuel context body).outcome entered)
  handed : handOvers (happenings (fuel + levels.length) context (tower (levels.map Prod.fst) body) world) =
    handOvers (happenings fuel context body entered)
  unwinds : Unwinds id levels.length ((eval fuel context body).after entered)
    ((eval (fuel + levels.length) context (tower (levels.map Prod.fst) body)).after world)

/-- The captures of a tower above an open level come to what its
workload comes to, wrapped once for each, and hand nothing over. By
induction on the tower. -/
theorem tower_nested (one : ∀ level ∈ levels, level.2.monitor = id)
    (known : ∀ level ∈ levels, world.names.precompilers.lookup level.1 = some level.2)
    (own : ¬ (world.hosts.get id).HeldAgainst context.thread)
    (gates : GatesOpen context.thread (levels.map Prod.snd) world) (fuel : Nat) (body : Form) (depth : Nat)
    (level : (((eval fuel context body).after (opening context.thread (levels.map Prod.snd) world)).hosts.get id).level =
      depth + 1 + levels.length) :
    Nested context id levels fuel body world (opening context.thread (levels.map Prod.snd) world) := by
  have monitors : ∀ level ∈ levels.map Prod.snd, level.monitor = id := List.forall_mem_map.mpr one
  have climbs := opening_climbs monitors own gates
  obtain ⟨guards, mine, ran⟩ := tower_run one known own gates fuel body
  generalize opening context.thread (levels.map Prod.snd) world = entered at level climbs ran ⊢
  have guarding : ∀ guard ∈ guards, guard.precompiler.monitor = id := by
    intro guard member
    exact monitors _ (mine ▸ List.mem_map_of_mem member)
  have many : guards.length = levels.length := by
    have lengths := congrArg List.length mine
    rwa [List.length_map, List.length_map] at lengths
  rw [← many] at level
  obtain ⟨ended, unwinds⟩ := finishTower_unwinds guarding level ((eval fuel context body).outcome entered)
  rw [many] at ended unwinds
  have left : (eval (fuel + levels.length) context (tower (levels.map Prod.fst) body)).after world = _ :=
    congrArg Prod.snd ran
  refine ⟨(congrArg Prod.fst ran).trans ended, ?_, by rw [left]; exact unwinds⟩
  obtain ⟨early, before, none⟩ := climbs.handed
  obtain ⟨late, behind, nothing⟩ := unwinds.handed
  have during := (eval_course fuel context body entered).trace
  have trace : ((eval (fuel + levels.length) context (tower (levels.map Prod.fst) body)).after world).trace =
      (early ++ happenings fuel context body entered ++ late).reverse ++ world.trace := by
    rw [left]
    refine behind.trans ?_
    rw [during, before, List.reverse_append, List.reverse_append, List.append_assoc, List.append_assoc]
  rw [happenings, World.since_eq trace, handOvers_append, handOvers_append, none, nothing, List.append_nil]
  rfl

/-- The upper workloads of a tower, behind the openings of the lower ones. The
lower workloads are around it, so its openings begin on a claimed host. -/
theorem tower_nested_above {lower upper : List (String × Precompiler)}
    (one : ∀ level ∈ lower ++ upper, level.2.monitor = id)
    (known : ∀ level ∈ lower ++ upper, world.names.precompilers.lookup level.1 = some level.2)
    (own : ¬ (world.hosts.get id).HeldAgainst context.thread)
    (gates : GatesOpen context.thread ((lower ++ upper).map Prod.snd) world) (fuel : Nat) (body : Form) (depth : Nat) :
    let entered := opening context.thread ((lower ++ upper).map Prod.snd) world
    (((eval fuel context body).after entered).hosts.get id).level = depth + 1 + upper.length →
      Nested context id upper fuel body (opening context.thread (lower.map Prod.snd) world) entered := by
  intro entered level
  rw [List.map_append] at gates
  obtain ⟨below, above⟩ := gatesOpen_append.mp gates
  obtain ⟨oneBelow, oneAbove⟩ := List.forall_mem_append.mp one
  obtain ⟨_, knownAbove⟩ := List.forall_mem_append.mp known
  have climbs := opening_climbs (List.forall_mem_map.mpr oneBelow) own below
  rw [← climbs.names] at knownAbove
  have same : entered = opening context.thread (upper.map Prod.snd)
      (opening context.thread (lower.map Prod.snd) world) := by
    unfold entered opening
    rw [List.map_append, List.foldl_append]
  rw [same] at level ⊢
  exact tower_nested oneAbove knownAbove climbs.own above fuel body depth level

open Act in
/-- A workload that closes the last level of its host, around anything: its
sink is called once behind whatever sinks are called inside. It may be the
only workload or the outermost of a tower. -/
theorem compile_surfaces {name : String} {precompiler : Precompiler} {flags : Flags}
    (known : world.names.precompilers.lookup name = some precompiler)
    (gate : precompiler.gate.outcome world = .ok (some flags))
    (own : ¬ (world.hosts.get precompiler.monitor).HeldAgainst context.thread) (fuel : Nat) (inside : Form) :
    let opened := (precompiler.beginCapture context.thread).after world
    let closed := (eval fuel context inside).after opened
    let emission : Emission := ⟨precompiler.artifact, (closed.hosts.get precompiler.monitor).recorded⟩
    (closed.hosts.get precompiler.monitor).level = 1 →
      (eval (fuel + 1) context (.compile name inside)).outcome world =
          surfaced ((eval fuel context inside).outcome opened) (sinkAnswer precompiler.sink emission closed) ∧
        handOvers (happenings (fuel + 1) context (.compile name inside) world) =
          handOvers (happenings fuel context inside opened) ++ [⟨some precompiler.monitor, precompiler.sink, emission⟩] := by
  intro opened closed emission last
  obtain ⟨guard, begun, rfl, climbs⟩ := beginCapture_climbs gate own
  have ran := (eval_compile_run known fuel context inside).trans (compile_run begun inside)
  obtain ⟨answered, closing, behind, once⟩ := finishWorkload_last last ((eval fuel context inside).outcome opened)
  refine ⟨(congrArg Prod.fst ran).trans answered, ?_⟩
  obtain ⟨early, before, none⟩ := climbs.handed
  have during := (eval_course fuel context inside opened).trace
  have trace : ((eval (fuel + 1) context (.compile name inside)).after world).trace =
      (early ++ happenings fuel context inside opened ++ closing).reverse ++ world.trace := by
    refine (congrArg (fun run => run.2.trace) ran).trans (behind.trans ?_)
    rw [during, before, List.reverse_append, List.reverse_append, List.append_assoc, List.append_assoc]
  rw [happenings, World.since_eq trace, handOvers_append, handOvers_append, none, once]
  rfl

end Context

open Precompiler Form Context Act in
/-- Failures come out of workloads within each other in the documented
order, around every body that leaves the levels of the host to captures and
lets go in reverse order of the captures of the host that it takes into the
hand. The body is evaluated once, behind all openings, and then the
workloads end. The inner ones call no sink and come to what the body comes
to. The outermost one calls its sink, once, with what was recorded; an error
of the sink comes out if the body has succeeded, and a failure of the body
comes out whatever the sink answers. -/
theorem failures_surface_in_order {context : Context} {world : World} {id : HostId} {top : String × Precompiler}
    {inner : List (String × Precompiler)} (reached : Reached context world)
    (known : ∀ level ∈ top :: inner, world.names.precompilers.lookup level.1 = some level.2)
    (one : ∀ level ∈ top :: inner, level.2.monitor = id) (free : (world.hosts.get id).armed = none)
    (gates : GatesOpen context.thread ((top :: inner).map Prod.snd) world) (fuel : Nat) (body : Form) :
    let entered := opening context.thread ((top :: inner).map Prod.snd) world
    let outcome := (eval fuel context body).outcome entered
    let behind := (eval fuel context body).after entered
    let emission : Emission := ⟨top.2.artifact, (behind.hosts.get id).recorded⟩
    let whole := tower ((top :: inner).map Prod.fst) body
    LetsGoInOrder (capturesHandled id (happenings fuel context body entered)) →
      .monitorUsed id ∉ happenings fuel context body entered →
      (∃ guards : List Guard, guards.map Guard.precompiler = (top :: inner).map Prod.snd ∧
        (eval (fuel + inner.length + 1) context whole).run world = (finishTower guards outcome).run behind) ∧
      (∀ outer rest, inner = outer ++ rest → Nested context id rest fuel body
        (opening context.thread ((top :: outer).map Prod.snd) world) entered) ∧
      (eval (fuel + inner.length + 1) context whole).outcome world =
        surfaced (workloadOutcome^[inner.length] outcome) (sinkAnswer top.2.sink emission behind) ∧
      handOvers (happenings (fuel + inner.length + 1) context whole world) =
        handOvers (happenings fuel context body entered) ++ [⟨some id, top.2.sink, emission⟩] ∧
      handOversOf id (happenings (fuel + inner.length + 1) context whole world) =
        [⟨some id, top.2.sink, emission⟩] := by
  intro entered outcome behind emission whole orderly byHand
  have own : ¬ (world.hosts.get id).HeldAgainst context.thread := by
    rintro ⟨armed, claimed, _⟩
    cases free.symm.trans claimed
  have made : world.Made id := one top (List.mem_cons_self ..) ▸ (reached.made (known top (List.mem_cons_self ..))).1
  have climbs := opening_climbs (List.forall_mem_map.mpr one) own gates
  have raised : (entered.hosts.get id).level = inner.length + 1 + ([] : List Holding).length := by
    rw [climbs.level, Host.level_eq_zero.mpr free, List.length_map, Nat.zero_add]
    rfl
  have enteredMade : entered.Made id := Nat.lt_of_lt_of_eq made climbs.fresh.symm
  have course := eval_course fuel context body entered
  have height : (behind.hosts.get id).level = inner.length + 1 := course.level enteredMade byHand orderly raised
  have nothing := course.handOversOf_nested enteredMade byHand orderly raised
  have nested : ∀ outer rest, inner = outer ++ rest → Nested context id rest fuel body
      (opening context.thread ((top :: outer).map Prod.snd) world) entered := by
    rintro outer rest rfl
    have remaining : (behind.hosts.get id).level = outer.length + 1 + rest.length := by
      rw [height, List.length_append]
      omega
    exact @tower_nested_above id world context (top :: outer) rest one known own gates fuel body outer.length remaining
  refine ⟨tower_run one known own gates fuel body, nested, ?_⟩
  have above : Nested context id inner fuel body ((top.2.beginCapture context.thread).after world) entered :=
    nested [] inner rfl
  obtain ⟨ended, handed, unwinds⟩ := above
  obtain ⟨rfl, _⟩ := List.forall_mem_cons.mp one
  obtain ⟨⟨flags, gate⟩, _⟩ := gates
  have last := Nat.add_right_cancel (unwinds.level.symm.trans (height.trans (Nat.add_comm ..)))
  obtain ⟨surfaces, calls⟩ := compile_surfaces (known top (List.mem_cons_self ..)) gate own (fuel + inner.length)
    (tower (inner.map Prod.fst) body) last
  rw [ended, unwinds.recorded, sinkAnswer_of_eq unwinds.sinks unwinds.files] at surfaces
  rw [handed, unwinds.recorded] at calls
  exact ⟨surfaces, calls, handOversOf_last calls nothing rfl⟩

namespace Session

/-- Makes a second unit, with a sink that takes nothing. -/
def towering : Form :=
  .sequence [preparing, .command (.newSink "closed" (.rejecting "read-only")),
    .command (.newPrecompiler "strict" ⟨"strict", .fixed .building, "flags", "h", "closed", none⟩)]

/-- The world behind these preparations. Towers of both units are begun in
it. -/
def towered : World := (eval 3 context towering).after (initial 0)

/-- The unit whose sink takes nothing. As the outermost one its scope ends
with an error, whatever its workload came to. -/
def strictUnit : Precompiler := ⟨"strict", "strict", .fixed .building, ⟨1⟩, firstHost, firstHost, ⟨3⟩⟩

/-- The workloads of a tower that are not its outermost one: one of each unit.
Each is entered within the one before. -/
def withinStrict : List (String × Precompiler) := [("unit", preparedUnit), ("strict", strictUnit)]

/-- Behind the openings of a tower of both units, the strict one outermost.
The innermost workload is evaluated in it. -/
def enteredStrict : World :=
  Precompiler.opening context.thread ((("strict", strictUnit) :: withinStrict).map Prod.snd) towered

/-- Calls a routine of its own, which answers with nothing. It can be the
workload of any tower. -/
def answering : Form := .sequence [.register "answer" [] (.literal .null), .call "answer" []]

end Session

open Session in
/-- The outermost sink rejects what a successful body has called, and it
rejects what a failing one has called. -/
theorem failures_surface_in_order_rejected :
    (eval 7 context (.tower ["strict", "unit", "strict"] answering)).outcome towered =
        .error (.error (.emission "strict" (.rejected "read-only"))) ∧
      (eval 9 context (.tower ["strict", "unit", "strict"] calling)).outcome towered =
        .error (.error (.workload "stop")) := by
  have known : ∀ level ∈ ("strict", strictUnit) :: withinStrict,
      towered.names.precompilers.lookup level.1 = some level.2 := by decide +kernel
  have one : ∀ level ∈ ("strict", strictUnit) :: withinStrict, level.2.monitor = firstHost := by decide
  have gates : Precompiler.GatesOpen mainThread (strictUnit :: withinStrict.map Prod.snd) towered :=
    ⟨⟨{}, rfl⟩, ⟨{}, rfl⟩, ⟨{}, rfl⟩, trivial⟩
  have reached : Reached context towered := .behind 3 towering (.start 0)
  obtain ⟨_, _, succeeded, _⟩ := failures_surface_in_order reached known one rfl gates 4 answering
    (by decide +kernel) (by decide +kernel)
  obtain ⟨_, _, failed, _⟩ := failures_surface_in_order reached known one rfl gates 6 calling
    (by decide +kernel) (by decide +kernel)
  -- values cannot be compared, so the runs are decided up to the values that they come to
  have ran : ((eval 4 context answering).outcome enteredStrict).map (fun _ => ()) = .ok () := by decide +kernel
  have stopped : ((eval 6 context calling).outcome enteredStrict).map (fun _ => ()) =
      .error (.error (.workload "stop")) := by decide +kernel
  have closed : ((eval 4 context answering).after enteredStrict).sinks.get ⟨3⟩ = .rejecting "read-only" := by
    decide +kernel
  have answer := Act.sinkAnswer_rejecting closed
  unfold enteredStrict at ran stopped answer
  constructor
  · cases outcome : (eval 4 context answering).outcome
        (Precompiler.opening context.thread ((("strict", strictUnit) :: withinStrict).map Prod.snd) towered) with
    | error halt =>
      rw [outcome] at ran
      cases ran
    | ok value =>
      rw [outcome] at succeeded
      exact succeeded.trans (congrArg (Context.surfaced _) (answer _))
  · cases outcome : (eval 6 context calling).outcome
        (Precompiler.opening context.thread ((("strict", strictUnit) :: withinStrict).map Prod.snd) towered) with
    | ok value =>
      rw [outcome] at stopped
      cases stopped
    | error halt =>
      rw [outcome] at stopped failed
      cases stopped
      exact failed

end CallCapture
