import CallCapture.Proofs.Gate
import CallCapture.Proofs.Interleaving

namespace CallCapture

namespace Host

/-- A capture of another thread holds the host. A thread is never held against
by itself, whatever it has begun. -/
def HeldAgainst (host : Host Form) (thread : ThreadId) : Prop :=
  ∃ armed, host.armed = some armed ∧ armed.owner ≠ thread

theorem beginCapture?_heldAgainst {host : Host Form} {thread : ThreadId} (held : host.HeldAgainst thread)
    (verbose : Bool) : host.beginCapture? thread verbose = none := by
  obtain ⟨armed, claimed, other⟩ := held
  unfold beginCapture?
  rw [claimed]
  exact if_neg other

theorem beginCapture?_begins {host : Host Form} {thread : ThreadId} (own : ¬ host.HeldAgainst thread)
    (verbose : Bool) : ∃ nesting changed, host.beginCapture? thread verbose = some (nesting, changed) := by
  cases begun : host.beginCapture? thread verbose with
  | some claimed => exact ⟨claimed.1, claimed.2, rfl⟩
  | none =>
    unfold beginCapture? at begun
    split at begun
    · cases begun
    · rename_i armed claimed
      split at begun
      · cases begun
      · rename_i other
        exact absurd ⟨armed, claimed, other⟩ own

end Host

namespace Precompiler

open Act

variable {precompiler : Precompiler} {world : World} {flags : Flags} {thread : ThreadId}

/-- What a precompiler is told behind an open gate if the host belongs to
another thread. The error names the unit of the precompiler, not that of the
capture in its way. -/
theorem beginCapture_refused (gate : precompiler.gate.outcome world = .ok (some flags))
    (held : (world.hosts.get precompiler.monitor).HeldAgainst thread) : ∃ asked,
    (precompiler.beginCapture thread).run world = (.error (.error (.reentrancy precompiler.unit)),
      { world with
        asked := asked
        trace := .refused precompiler.monitor precompiler.unit :: .phaseAsked precompiler.unit :: world.trace }) := by
  obtain ⟨asked, gated⟩ := gate_open gate
  refine ⟨asked, ?_⟩
  have open_ : precompiler.gate.run world = (.ok (some flags), precompiler.gate.after world) := Prod.ext gate rfl
  have same : ((precompiler.gate.after world).hosts.get precompiler.monitor).HeldAgainst thread := by rwa [gated]
  obtain ⟨failed, left⟩ := beginLevel_refused precompiler.unit (Host.beginCapture?_heldAgainst same flags.verbose)
  have refused : (Act.beginLevel precompiler.monitor precompiler.unit flags.verbose thread).run
      (precompiler.gate.after world) = (_, _) := Prod.ext failed left
  unfold beginCapture
  rw [run_bind, open_]
  dsimp only
  rw [run_bind, refused, gated]

theorem beginCapture_accepted (gate : precompiler.gate.outcome world = .ok (some flags))
    (own : ¬ (world.hosts.get precompiler.monitor).HeldAgainst thread) :
    ∃ guard, (precompiler.beginCapture thread).outcome world = .ok (some guard) := by
  obtain ⟨asked, gated⟩ := gate_open gate
  have same : ¬ ((precompiler.gate.after world).hosts.get precompiler.monitor).HeldAgainst thread := by rwa [gated]
  obtain ⟨nesting, changed, begins⟩ := Host.beginCapture?_begins same flags.verbose
  obtain ⟨begun, _⟩ := beginLevel_begun precompiler.unit begins
  unfold beginCapture
  rw [outcome_bind_ok gate]
  dsimp only
  rw [outcome_bind_ok begun]
  exact ⟨_, rfl⟩

/-- A capture that begins does to the monitor's host what claiming it
does. What comes behind, the mode of the host that compiles, leaves
claims and listeners. -/
theorem beginCapture_claims {guard : Guard} {opened : World} (gate : precompiler.gate.outcome world = .ok (some flags))
    (begun : (precompiler.beginCapture thread).run world = (.ok (some guard), opened)) :
    ∃ changed, (world.hosts.get precompiler.monitor).beginCapture? thread flags.verbose =
        some (guard.nesting, changed) ∧
      (opened.hosts.get precompiler.monitor).armed = changed.armed ∧
      (opened.hosts.get precompiler.monitor).listener = changed.listener := by
  obtain ⟨asked, gated⟩ := gate_open gate
  have same : (precompiler.gate.after world).hosts = world.hosts := by rw [gated]
  have found : (precompiler.beginCapture thread).outcome world = .ok (some guard) := congrArg Prod.fst begun
  have left : (precompiler.beginCapture thread).after world = opened := congrArg Prod.snd begun
  unfold beginCapture at found left
  rw [outcome_bind_ok gate] at found
  rw [after_bind_ok gate] at left
  dsimp only at found left
  rw [← same]
  generalize precompiler.gate.after world = later at found left
  cases claims : (later.hosts.get precompiler.monitor).beginCapture? thread flags.verbose with
  | none =>
    obtain ⟨failed, _⟩ := beginLevel_refused precompiler.unit claims
    rw [outcome_bind, failed] at found
    cases found
  | some claimed =>
    obtain ⟨nesting, changed⟩ := claimed
    obtain ⟨level, claim⟩ := beginLevel_begun precompiler.unit claims
    obtain ⟨locked, lock⟩ := lock_locked precompiler.engine
      ((beginLevel precompiler.monitor precompiler.unit flags.verbose thread).after later)
    rw [outcome_bind_ok level, outcome_bind_ok locked] at found
    rw [after_bind_ok level, after_bind_ok locked] at left
    cases found
    cases left
    refine ⟨changed, rfl, ?_, ?_⟩
    · exact (lock.same Host.armed rfl _).trans (congrArg Host.armed claim.get_self)
    · exact (lock.same Host.listener rfl _).trans (congrArg Host.listener claim.get_self)

end Precompiler

/-- All that a thread comes to that wants a host which belongs to
another: an error that names the unit, and no change but that the phase
has been asked for and the refusal has been told. No evaluator gets to
see the body of a workload. Through a monitor and through every form that
captures, it is the same. -/
structure Refuses (id : HostId) (thread : ThreadId) (world : World) : Prop where
  level : ∀ unit verbose, (Act.beginLevel id unit verbose thread).run world =
    (.error (.error (.reentrancy unit)), world.noting (.refused id unit))
  capture : ∀ (precompiler : Precompiler) flags, precompiler.monitor = id →
    precompiler.gate.outcome world = .ok (some flags) → ∃ asked,
      let later := { world with
        asked := asked
        trace := .refused id precompiler.unit :: .phaseAsked precompiler.unit :: world.trace }
      (precompiler.beginCapture thread).run world = (.error (.error (.reentrancy precompiler.unit)), later) ∧
        ∀ (eval : Evaluator) (context : Context) body, context.thread = thread →
          (context.compile eval precompiler body).run world =
            (.error (.error (.reentrancy precompiler.unit)), later)

/-- A thread is never refused. Whether the gate is open is another matter;
behind an open one there is a capture. -/
structure Accepts (id : HostId) (thread : ThreadId) (world : World) : Prop where
  level : ∀ unit verbose, ∃ nesting, (Act.beginLevel id unit verbose thread).outcome world = .ok nesting
  capture : ∀ (precompiler : Precompiler) flags, precompiler.monitor = id →
    precompiler.gate.outcome world = .ok (some flags) →
      ∃ guard, (precompiler.beginCapture thread).outcome world = .ok (some guard)

/-- Whatever a thread tries with a host that another one holds is refused, and
leaves no trace but what is said of it. The evaluator is arbitrary here, so
nothing of the body can have been evaluated. -/
theorem Host.HeldAgainst.refuses {id : HostId} {thread : ThreadId} {world : World}
    (held : (world.hosts.get id).HeldAgainst thread) : Refuses id thread world where
  level unit verbose := by
    obtain ⟨failed, left⟩ := Act.beginLevel_refused unit (Host.beginCapture?_heldAgainst held verbose)
    exact Prod.ext failed left
  capture precompiler flags monitor gate := by
    subst monitor
    obtain ⟨asked, refused⟩ := Precompiler.beginCapture_refused gate held
    refine ⟨asked, refused, fun eval context body same => ?_⟩
    subst same
    unfold Context.compile
    rw [Act.run_bind, refused]

/-- The thread that holds a host, and any thread if the host is free,
is never refused. -/
theorem accepts_of_not_heldAgainst {id : HostId} {thread : ThreadId} {world : World}
    (own : ¬ (world.hosts.get id).HeldAgainst thread) : Accepts id thread world where
  level unit verbose := by
    obtain ⟨nesting, changed, begins⟩ := Host.beginCapture?_begins own verbose
    exact ⟨nesting, (Act.beginLevel_begun unit begins).1⟩
  capture precompiler flags monitor gate := by
    subst monitor
    exact Precompiler.beginCapture_accepted gate own

namespace System

/-- The levels of the host are those that the threads hold. From it follows
that two threads never hold levels at the same time. -/
def Owned (id : HostId) (system : System) : Prop :=
  ∀ thread, (system.parties thread).levels = (system.world.hosts.get id).levelsOf thread

/-- This is so behind all steps of all threads, however they are interleaved.
By induction on the steps. -/
theorem Owned.run {id : HostId} {system : System} (owned : Owned id system) (events : List (ThreadId × Move)) :
    Owned id (system.run id events) := by
  induction events using List.reverseRecOn with
  | nil => exact owned
  | append_singleton before event ih =>
    obtain ⟨party, parties, turn⟩ := (system.run id before).step_turn id event
    obtain ⟨self, others⟩ := turn.counts (ih event.1)
    intro thread
    rw [run_append_singleton, parties]
    by_cases same : thread = event.1
    · rw [same, Function.update_self]
      exact self
    · rw [Function.update_of_ne same, ih thread, others thread same]

end System

/-- Refusals are exact, and a host belongs to one thread at a time. -/
theorem reentrancy_exact (id : HostId) (world : World) :
    (∀ thread, (world.hosts.get id).HeldAgainst thread → Refuses id thread world) ∧
      (∀ thread, ¬ (world.hosts.get id).HeldAgainst thread → Accepts id thread world) ∧
      ((world.hosts.get id).armed = none → ∀ events thread,
        let later := (System.start world).run id events
        (later.parties thread).levels ≠ 0 →
          (∃ armed, (later.world.hosts.get id).armed = some armed ∧ armed.owner = thread) ∧
            ∀ other, other ≠ thread → (later.parties other).levels = 0 ∧ Refuses id other later.world) := by
  refine ⟨fun thread held => held.refuses, fun thread own => accepts_of_not_heldAgainst own, ?_⟩
  intro free events thread later holds
  have owned : System.Owned id later := System.Owned.run (System.start_orderly free).owned events
  rw [owned thread] at holds
  obtain ⟨armed, claimed, owner⟩ := Host.owner_of_levelsOf holds
  refine ⟨⟨armed, claimed, owner⟩, fun other different => ⟨?_, Host.HeldAgainst.refuses ⟨armed, claimed, ?_⟩⟩⟩
  · rw [owned other]
    exact Host.levelsOf_other holds different
  · rw [owner]
    exact different.symm

namespace Session

/-- A capture of the main thread is open. -/
def capturing : World := (preparedUnit.beginCapture mainThread).after prepared

end Session

open Session in
/-- Another thread is refused while a capture lives, and its own thread is
not. In the race the thread without a level is refused as well. -/
theorem reentrancy_exact_capturing :
    (preparedUnit.beginCapture System.secondThread).outcome capturing = .error (.error (.reentrancy "unit")) ∧
      (∃ guard, (preparedUnit.beginCapture mainThread).outcome capturing = .ok (some guard)) ∧
      let later := (System.start prepared).run firstHost (System.race.take 5)
      (later.parties mainThread).levels = 0 ∧ Refuses firstHost mainThread later.world := by
  have held : (capturing.hosts.get firstHost).HeldAgainst System.secondThread := ⟨_, rfl, by decide⟩
  have own : ¬ (capturing.hosts.get firstHost).HeldAgainst mainThread := by
    rintro ⟨armed, claimed, other⟩
    cases claimed
    exact other rfl
  obtain ⟨refuses, accepts, _⟩ := reentrancy_exact firstHost capturing
  obtain ⟨asked, refused, _⟩ := (refuses System.secondThread held).capture preparedUnit {} rfl rfl
  have second :
      (((System.start prepared).run firstHost (System.race.take 5)).parties System.secondThread).levels ≠ 0 := by
    decide +kernel
  obtain ⟨_, others⟩ := (reentrancy_exact firstHost prepared).2.2 rfl (System.race.take 5) System.secondThread second
  exact ⟨congrArg Prod.fst refused, (accepts mainThread own).capture preparedUnit {} rfl rfl,
    others mainThread (by decide)⟩

end CallCapture
