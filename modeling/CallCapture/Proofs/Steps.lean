import CallCapture.Proofs.Captures
import Mathlib.Logic.Function.Basic

namespace CallCapture

namespace Act

/-- The second half of a lock: the mode that was read is remembered,
and the host is forced. Another thread may come between the reading of
the mode and this. -/
def force (id : HostId) (previous : CompileMode) : Act Unit := do
  setHost id ((← host id).setMode .forced)
  note (.locked id previous)

end Act

namespace Guard

/-- What is left to do for a capture whose level has ended and whose
mode has been restored. For a further level nothing is left, and for a
free host neither. -/
def report (guard : Guard) : Ending → Act (Option Report)
  | .outermost recorded => do
    guard.precompiler.emit recorded.signatures
    Act.note (.reported guard.precompiler.unit recorded.signatures.length)
    return some ⟨guard.precompiler.unit, guard.precompiler.artifact, recorded.signatures.length⟩
  | _ => return none

/-- A capture is ended in three steps: its level, the mode of its engine, and
what is reported of it. -/
theorem disarm_eq (guard : Guard) : guard.disarm = (do
    let ending ← Act.endLevel guard.precompiler.monitor
    Act.unlock guard.precompiler.engine guard.previous
    guard.report ending) := by
  unfold disarm
  congr 1

/-- What is reported of a capture changes no host. Another thread may come
before it without any harm to the hosts. -/
theorem report_hosts (guard : Guard) (ending : Ending) (world : World) :
    ((guard.report ending).after world).hosts = world.hosts := by
  cases ending with
  | outermost recorded =>
    obtain ⟨emission, remarks, _, said⟩ := guard.emit_emits recorded.signatures world
    cases emitted : (guard.precompiler.emit recorded.signatures).outcome world with
    | error halt =>
      unfold report
      rw [Act.after_bind_error emitted]
      exact said.hosts
    | ok _ =>
      unfold report
      rw [Act.after_bind_ok emitted]
      exact said.hosts
  | _ => rfl

end Guard

/-- Where a thread stands between two steps: outside, or within the opening or
the closing of a capture. The monitor is claimed before the mode is read and
forced, and given back before the mode is restored. A capture that a thread is
opening or closing is neither held nor gone. -/
inductive Stage where
  | free
  | claimed (precompiler : Precompiler) (nesting : Nesting)
  | reading (precompiler : Precompiler) (nesting : Nesting) (previous : CompileMode)
  | ended (guard : Guard) (ending : Ending)
  | restored (guard : Guard) (ending : Ending)

/-- A thread with the guards that it holds, latest first. Guards that are
being opened or closed are in the stage and not among these. -/
structure Party where
  stage : Stage := .free
  guards : List Guard := []

/-- A world with the threads that open and close captures in it. The world is
shared by all threads; what a thread knows is its own. -/
structure System where
  world : World
  parties : ThreadId → Party

namespace System

/-- The steps of opening and closing a capture. The gate is open wherever a
capture begins, and has seen some flags. They are the steps that the program
takes one after the other, each of which it takes as a whole. -/
inductive Move where
  | begin (precompiler : Precompiler) (verbose : Bool)
  | read
  | force
  | finish
  | restore
  | emit
  deriving DecidableEq

/-- A step of a thread; one that is not its turn does nothing. Every step is
atomic, and other threads may come between any two of them. A capture that is
refused leaves the thread outside. -/
def move (id : HostId) (thread : ThreadId) (world : World) (party : Party) (move : Move) : World × Party :=
  match move, party.stage with
  | .begin precompiler verbose, .free =>
    match (Act.beginLevel id precompiler.unit verbose thread).run world with
    | (.ok nesting, later) => (later, { party with stage := .claimed (precompiler.onHost id) nesting })
    | (.error _, later) => (later, party)
  | .read, .claimed precompiler nesting =>
    (world, { party with stage := .reading precompiler nesting (world.hosts.get id).mode })
  | .force, .reading precompiler nesting previous =>
    ((Act.force id previous).after world, { guards := ⟨precompiler, previous, nesting⟩ :: party.guards })
  | .finish, .free =>
    match party.guards with
    | [] => (world, party)
    | guard :: rest =>
      ((Act.endLevel id).after world, { stage := .ended guard (world.hosts.get id).endCapture.1, guards := rest })
  | .restore, .ended guard ending =>
    ((Act.unlock id guard.previous).after world, { party with stage := .restored guard ending })
  | .emit, .restored guard ending => ((guard.report ending).after world, { party with stage := .free })
  | _, _ => (world, party)

/-- One thread takes one step. The others stay where they are, in the
world as it is now. -/
def step (id : HostId) (system : System) (event : ThreadId × Move) : System :=
  let (world, party) := move id event.1 system.world (system.parties event.1) event.2
  ⟨world, Function.update system.parties event.1 party⟩

/-- Threads take steps in any order. Each event is one step of one thread, and
between two of them any other thread may come. -/
def run (id : HostId) (system : System) (events : List (ThreadId × Move)) : System :=
  events.foldl (step id) system

/-- No thread is within a capture. The world may be any; what is proved of it
asks for a free host. -/
def start (world : World) : System := ⟨world, fun _ => {}⟩

/-- How the host compiles. Threads remember modes of their own, which need
not agree with it. -/
def mode (system : System) (id : HostId) : CompileMode := (system.world.hosts.get id).mode

/-- What a step does to the host and to the thread that takes it. The host is
given as a whole, and the rest of the world is left out. -/
inductive Turn (id : HostId) (thread : ThreadId) (host : Host Form) (party : Party) : Move → Host Form → Party → Prop
  | idle {move} : Turn id thread host party move host party
  | begin {precompiler verbose nesting changed} : party.stage = .free →
      host.beginCapture? thread verbose = some (nesting, changed) →
      Turn id thread host party (.begin precompiler verbose) changed
        { party with stage := .claimed (precompiler.onHost id) nesting }
  | read {precompiler nesting} : party.stage = .claimed precompiler nesting →
      Turn id thread host party .read host { party with stage := .reading precompiler nesting host.mode }
  | force {precompiler nesting previous} : party.stage = .reading precompiler nesting previous →
      Turn id thread host party .force (host.setMode .forced)
        { guards := ⟨precompiler, previous, nesting⟩ :: party.guards }
  | finish {guard rest} : party.stage = .free → party.guards = guard :: rest →
      Turn id thread host party .finish host.endCapture.2 { stage := .ended guard host.endCapture.1, guards := rest }
  | restore {guard ending} : party.stage = .ended guard ending →
      Turn id thread host party .restore (host.setMode guard.previous) { party with stage := .restored guard ending }
  | emit {guard ending} : party.stage = .restored guard ending →
      Turn id thread host party .emit host { party with stage := .free }

/-- Each step is a turn. The cases are those of the step and of where
the thread stands. -/
theorem move_turn (id : HostId) (thread : ThreadId) (world : World) (party : Party) (next : Move) :
    Turn id thread (world.hosts.get id) party next ((move id thread world party next).1.hosts.get id)
      (move id thread world party next).2 := by
  unfold move
  split
  · rename_i precompiler verbose free
    cases level : (world.hosts.get id).beginCapture? thread verbose with
    | none =>
      obtain ⟨refused, left⟩ := Act.beginLevel_refused precompiler.unit level
      have run : (Act.beginLevel id precompiler.unit verbose thread).run world =
          (_, world.noting (.refused id precompiler.unit)) := Prod.ext refused left
      rw [run]
      exact .idle
    | some claimed =>
      obtain ⟨nesting, changed⟩ := claimed
      obtain ⟨begun, claim⟩ := Act.beginLevel_begun precompiler.unit level
      have run : (Act.beginLevel id precompiler.unit verbose thread).run world = (.ok nesting, _) := Prod.ext begun rfl
      rw [run]
      dsimp only
      have changes := claim.get_self
      unfold Act.after at changes
      rw [changes]
      exact .begin free level
  · rename_i precompiler nesting claimed
    exact .read claimed
  · rename_i precompiler nesting previous reading
    have forced : ((Act.force id previous).after world).hosts.get id = (world.hosts.get id).setMode .forced :=
      (Moved.put world id _ []).get_self
    rw [forced]
    exact .force reading
  · rename_i free
    split
    · exact .idle
    · rename_i guard rest held
      rw [(Act.endLevel_ended id world).2.get_self]
      exact .finish free held
  · rename_i guard ending ended
    rw [(Act.unlock_released id guard.previous world).2.get_self]
    exact .restore ended
  · rename_i guard ending restored
    rw [guard.report_hosts]
    exact .emit restored
  · exact .idle

/-- Steps of one thread, with no other in between. It is what is compared with
the captures of a session. -/
def runAlone (id : HostId) (thread : ThreadId) (world : World) (party : Party) (moves : List Move) : World × Party :=
  moves.foldl (fun state next => move id thread state.1 state.2 next) (world, party)

/-- Steps that no other thread comes between are what the thread does by
itself. -/
theorem run_alone (id : HostId) (thread : ThreadId) (system : System) (moves : List Move) :
    ((system.run id (moves.map fun next => (thread, next))).world,
        (system.run id (moves.map fun next => (thread, next))).parties thread) =
      runAlone id thread system.world (system.parties thread) moves := by
  induction moves generalizing system with
  | nil => rfl
  | cons next rest ih =>
    refine (ih (system.step id (thread, next))).trans ?_
    have party : (system.step id (thread, next)).parties thread =
        (move id thread system.world (system.parties thread) next).2 := Function.update_self ..
    rw [party]
    rfl

open Act in
/-- Behind an open gate, a capture opens in three steps as it does without
other threads, or it is refused. So the steps split what a capture does, and
add nothing to it. -/
theorem runAlone_opening {id : HostId} {thread : ThreadId} {world gated : World} {party : Party}
    {precompiler : Precompiler} {flags : Flags}
    (gate : (precompiler.onHost id).gate.run world = (.ok (some flags), gated)) (free : party.stage = .free) :
    runAlone id thread gated party [.begin precompiler flags.verbose, .read, .force] =
      (((precompiler.onHost id).beginCapture thread).after world,
        match ((precompiler.onHost id).beginCapture thread).outcome world with
        | .ok (some guard) => { guards := guard :: party.guards }
        | _ => party) := by
  have asked : (precompiler.onHost id).gate.outcome world = .ok (some flags) := congrArg Prod.fst gate
  have left : (precompiler.onHost id).gate.after world = gated := congrArg Prod.snd gate
  have opening : move id thread gated party (.begin precompiler flags.verbose) =
      match (beginLevel id precompiler.unit flags.verbose thread).run gated with
      | (.ok nesting, later) => (later, { party with stage := .claimed (precompiler.onHost id) nesting })
      | (.error _, later) => (later, party) := by
    unfold move
    rw [free]
  unfold runAlone
  rw [List.foldl_cons]
  dsimp only
  rw [opening]
  cases begun : (beginLevel id precompiler.unit flags.verbose thread).run gated with
  | mk outcome claimed =>
    have behind : (beginLevel id precompiler.unit flags.verbose thread).after gated = claimed := congrArg Prod.snd begun
    cases outcome with
    | error halt =>
      have ended : (beginLevel id precompiler.unit flags.verbose thread).outcome gated = .error halt :=
        congrArg Prod.fst begun
      have refused : ((precompiler.onHost id).beginCapture thread).after world = claimed ∧
          ((precompiler.onHost id).beginCapture thread).outcome world = .error halt := by
        unfold Precompiler.beginCapture
        rw [after_bind_ok asked, outcome_bind_ok asked, left]
        exact ⟨(after_bind_error ended).trans behind, outcome_bind_error ended⟩
      rw [refused.1, refused.2]
      obtain ⟨stage, guards⟩ := party
      subst free
      rfl
    | ok nesting =>
      have ended : (beginLevel id precompiler.unit flags.verbose thread).outcome gated = .ok nesting :=
        congrArg Prod.fst begun
      have opened : ((precompiler.onHost id).beginCapture thread).after world = (lock id).after claimed ∧
          ((precompiler.onHost id).beginCapture thread).outcome world =
            .ok (some ⟨precompiler.onHost id, (claimed.hosts.get id).mode, nesting⟩) := by
        unfold Precompiler.beginCapture
        rw [after_bind_ok asked, outcome_bind_ok asked, left, ← behind]
        exact ⟨after_bind_ok ended, outcome_bind_ok ended⟩
      rw [opened.1, opened.2]
      rfl

/-- A capture is closed in three steps as it is closed without other threads:
its level, the mode, and what is reported of it. -/
theorem runAlone_closing {id : HostId} {thread : ThreadId} {world : World} {party : Party} {guard : Guard}
    {rest : List Guard} (free : party.stage = .free) (held : party.guards = guard :: rest)
    (monitor : guard.precompiler.monitor = id) (engine : guard.precompiler.engine = id) :
    runAlone id thread world party [.finish, .restore, .emit] = (guard.disarm.after world, { guards := rest }) := by
  obtain ⟨ended, _⟩ := Act.endLevel_ended id world
  have finish : move id thread world party .finish = ((Act.endLevel id).after world,
      { stage := .ended guard (world.hosts.get id).endCapture.1, guards := rest }) := by
    unfold move
    rw [free]
    dsimp only
    rw [held]
  unfold runAlone
  rw [List.foldl_cons]
  dsimp only
  rw [finish, guard.disarm_eq, monitor, engine, Act.after_bind_ok ended]
  rfl

theorem step_turn (id : HostId) (system : System) (event : ThreadId × Move) : ∃ party,
    (system.step id event).parties = Function.update system.parties event.1 party ∧
      Turn id event.1 (system.world.hosts.get id) (system.parties event.1) event.2
        ((system.step id event).world.hosts.get id) party :=
  ⟨_, rfl, move_turn id event.1 system.world (system.parties event.1) event.2⟩

/-- The last of several steps is taken in the system that the others lead to.
Inductions on what a system does go by the last step. -/
theorem run_append_singleton (id : HostId) (system : System) (before : List (ThreadId × Move))
    (event : ThreadId × Move) : system.run id (before ++ [event]) = (system.run id before).step id event := by
  unfold run
  rw [List.foldl_append]
  rfl

end System

end CallCapture
