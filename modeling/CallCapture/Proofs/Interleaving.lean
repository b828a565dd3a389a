import CallCapture.Proofs.Orderly
import CallCapture.Proofs.Reach
import Mathlib.Data.List.Induction

namespace CallCapture

namespace System

/-- The host is forced while a capture is open on any thread, and in its own
mode while no thread is within one. Both halves are needed: the first one
keeps calls from going unheard, and the second one gives the host back. -/
def Lawful (id : HostId) (own : CompileMode) (system : System) : Prop :=
  (∀ thread, (system.parties thread).guards ≠ [] → system.mode id = .forced) ∧
    ((∀ thread, (system.parties thread).stage = .free ∧ (system.parties thread).guards = []) → system.mode id = own)

/-- No thread reads the mode while another is between the end of its level and
the restoring of the mode. It speaks of what a thread that has claimed the
host may do, and of where the others stand then. -/
def Serial (id : HostId) (system : System) (events : List (ThreadId × Move)) : Prop :=
  ∀ before thread, before ++ [(thread, .read)] <+: events →
    ((system.run id before).parties thread).stage.IsClaimed →
    ∀ other, other ≠ thread → ¬ ((system.run id before).parties other).stage.IsEnded

/-- Threads only go on with what they have begun. Neither does a thread claim
a host then, nor does it read a mode. -/
def Pending (events : List (ThreadId × Move)) : Prop :=
  ∀ event ∈ events, event.2 = .force ∨ event.2 = .restore

theorem Orderly.lawful {own : CompileMode} {id : HostId} {system : System}
    (orderly : Orderly own (system.world.hosts.get id) system.parties) : Lawful id own system := by
  refine ⟨fun thread open_ => orderly.raised thread (Or.inl open_), fun outside => orderly.lowered fun thread => ?_⟩
  obtain ⟨free, none⟩ := outside thread
  rintro (some | ends)
  · exact some none
  · rw [free] at ends
    exact ends

theorem Serial.of_prefix {id : HostId} {system : System} {early events : List (ThreadId × Move)}
    (serial : Serial id system events) (earlier : early <+: events) : Serial id system early :=
  fun before thread occurs => serial before thread (occurs.trans earlier)

/-- Another step keeps a history serial unless it reads the mode while another
thread has yet to restore it. -/
theorem serial_append_singleton {id : HostId} {system : System} {events : List (ThreadId × Move)}
    {event : ThreadId × Move} : Serial id system (events ++ [event]) ↔ Serial id system events ∧
      (event.2 = .read → ((system.run id events).parties event.1).stage.IsClaimed →
        ∀ other, other ≠ event.1 → ¬ ((system.run id events).parties other).stage.IsEnded) := by
  constructor
  · intro serial
    refine ⟨serial.of_prefix (List.prefix_append ..), fun reads => ?_⟩
    obtain ⟨thread, next⟩ := event
    subst reads
    exact serial events thread (List.prefix_refl _)
  · rintro ⟨early, late⟩ before thread occurs
    rcases List.prefix_concat_iff.mp occurs with same | earlier
    · obtain ⟨rfl, equal⟩ := List.append_inj' same rfl
      cases equal
      exact late rfl
    · exact early before thread earlier

/-- Threads that only go on with what they have begun read no mode, so a
history stays serial. -/
theorem Serial.append_pending {id : HostId} {system : System} {events pending : List (ThreadId × Move)}
    (serial : Serial id system events) (goesOn : Pending pending) : Serial id system (events ++ pending) := by
  induction pending using List.reverseRecOn with
  | nil => rwa [List.append_nil]
  | append_singleton before event ih =>
    rw [← List.append_assoc]
    refine serial_append_singleton.mpr ⟨ih fun other member => goesOn other (List.mem_append_left _ member), ?_⟩
    intro reads
    have last := goesOn event (List.mem_append_right _ (List.mem_singleton_self event))
    rw [reads] at last
    rcases last with same | same <;> cases same

/-- A serial history keeps a system orderly, whatever the order of its steps.
By induction on the steps, the last one first. That no thread reads too early
is asked for at every single step. -/
theorem Orderly.run {own : CompileMode} {id : HostId} {system : System}
    (orderly : Orderly own (system.world.hosts.get id) system.parties) (events : List (ThreadId × Move))
    (serial : Serial id system events) :
    Orderly own ((system.run id events).world.hosts.get id) (system.run id events).parties := by
  induction events using List.reverseRecOn with
  | nil => exact orderly
  | append_singleton before event ih =>
    obtain ⟨early, late⟩ := serial_append_singleton.mp serial
    obtain ⟨party, parties, turn⟩ := (system.run id before).step_turn id event
    rw [run_append_singleton, parties]
    exact (ih early).turn turn late

/-- Once a host is forced and everybody would put back the forced mode, it is
forced for good. Then the order of the steps is of no matter. -/
theorem run_forced {id : HostId} {system : System} (mode : system.mode id = .forced)
    (saved : ∀ thread, (system.parties thread).Saved .forced) (events : List (ThreadId × Move)) :
    (system.run id events).mode id = .forced ∧ ∀ thread, ((system.run id events).parties thread).Saved .forced := by
  induction events using List.reverseRecOn with
  | nil => exact ⟨mode, saved⟩
  | append_singleton before event ih =>
    obtain ⟨party, parties, turn⟩ := (system.run id before).step_turn id event
    rw [run_append_singleton, parties]
    exact turn.forced ih.1 ih.2

theorem start_orderly {id : HostId} {world : World} (free : (world.hosts.get id).armed = none) :
    Orderly (world.hosts.get id).mode ((start world).world.hosts.get id) (start world).parties where
  owned thread := by
    unfold start Host.levelsOf
    dsimp only
    rw [free]
    rfl
  saved thread := ⟨trivial, trivial⟩
  raised thread up := up.elim (absurd rfl) False.elim
  lowered _ := rfl
  alone thread ends := ends.elim

theorem step_read {id : HostId} {system : System} {thread : ThreadId} {precompiler : Precompiler} {nesting : Nesting}
    (claimed : (system.parties thread).stage = .claimed precompiler nesting) :
    (system.step id (thread, .read)).parties = Function.update system.parties thread
      { system.parties thread with stage := .reading precompiler nesting (system.mode id) } := by
  unfold step move
  dsimp only
  rw [claimed]
  rfl

theorem step_force {id : HostId} {system : System} {thread : ThreadId} {precompiler : Precompiler} {nesting : Nesting}
    {previous : CompileMode} (reading : (system.parties thread).stage = .reading precompiler nesting previous) :
    (system.step id (thread, .force)).parties = Function.update system.parties thread
      { guards := ⟨precompiler, previous, nesting⟩ :: (system.parties thread).guards } := by
  unfold step move
  dsimp only
  rw [reading]

/-- A thread whose level has ended puts back the mode that it remembers. It
may not be the mode that should be restored, if it was read too early. -/
theorem step_restore {id : HostId} {system : System} {thread : ThreadId} {guard : Guard} {ending : Ending}
    (ends : (system.parties thread).stage = .ended guard ending) :
    (system.step id (thread, .restore)).mode id = guard.previous ∧
      (system.step id (thread, .restore)).parties = Function.update system.parties thread
        { system.parties thread with stage := .restored guard ending } := by
  unfold step move mode
  dsimp only
  rw [ends]
  refine ⟨?_, rfl⟩
  dsimp only
  rw [(Act.unlock_released id guard.previous system.world).2.get_self]
  rfl

/-- A thread that reads the mode before another has restored it loses the
forced mode when the other does. Two steps of the threads are enough to show
it: the one forces the host and the other one restores its mode. -/
theorem Orderly.race {own : CompileMode} {id : HostId} {system : System}
    (orderly : Orderly own (system.world.hosts.get id) system.parties) {thread other : ThreadId}
    (different : other ≠ thread) (claimed : (system.parties thread).stage.IsClaimed)
    (ends : (system.parties other).stage.IsEnded)
    (lawful : Lawful id own
      (system.run id [(thread, .read), (thread, .force), (other, .restore)])) : own = .forced := by
  obtain ⟨precompiler, nesting, stage⟩ : ∃ precompiler nesting,
      (system.parties thread).stage = .claimed precompiler nesting := by
    unfold Stage.IsClaimed at claimed
    split at claimed
    · exact ⟨_, _, ‹_›⟩
    · exact claimed.elim
  obtain ⟨guard, ending, last⟩ : ∃ guard ending, (system.parties other).stage = .ended guard ending := by
    unfold Stage.IsEnded at ends
    split at ends
    · exact ⟨_, _, ‹_›⟩
    · exact ends.elim
  have holds : (system.parties thread).levels ≠ 0 := by
    unfold Party.levels
    rw [stage]
    exact Nat.succ_ne_zero _
  -- the other thread has ended its last level, so it is about to restore the host's own mode
  have restores : guard.previous = own := by
    have saved := (orderly.saved other).2
    rw [last, (orderly.others_empty holds different).1] at saved
    exact saved
  let read := system.step id (thread, .read)
  let forced := read.step id (thread, .force)
  have readParties : read.parties = _ := step_read stage
  have reading : (read.parties thread).stage = .reading precompiler nesting (system.mode id) := by
    rw [readParties, Function.update_self]
  have forcedParties : forced.parties = _ := step_force reading
  have still : (forced.parties other).stage = .ended guard ending := by
    rw [forcedParties, Function.update_of_ne different, readParties, Function.update_of_ne different, last]
  obtain ⟨mode, parties⟩ := @step_restore id forced _ _ _ still
  have open_ : ((forced.step id (other, .restore)).parties thread).guards ≠ [] := by
    rw [parties, Function.update_of_ne different.symm, forcedParties, Function.update_self]
    exact List.cons_ne_nil _ _
  have raised : (forced.step id (other, .restore)).mode id = .forced := lawful.1 thread open_
  rw [← restores, ← mode, raised]

/-- If no history that goes on from a part of this one is unlawful, then this
one is serial: at the first reading that comes too early, the two threads
could go on so that one restores the mode under the other. -/
theorem serial_of_lawful {own : CompileMode} {id : HostId} {system : System}
    (orderly : Orderly own (system.world.hosts.get id) system.parties) (adaptive : own ≠ .forced)
    (events : List (ThreadId × Move))
    (lawful : ∀ before pending, before <+: events → Pending pending →
      Lawful id own (system.run id (before ++ pending))) : Serial id system events := by
  induction events using List.reverseRecOn with
  | nil =>
    intro before thread occurs
    exact absurd (List.prefix_nil.mp occurs) (by simp)
  | append_singleton before event ih =>
    have early := ih fun first pending occurs => lawful first pending (occurs.trans (List.prefix_append ..))
    refine serial_append_singleton.mpr ⟨early, fun reads claimed other different ends => adaptive ?_⟩
    obtain ⟨thread, next⟩ := event
    subst reads
    have goesOn : Pending [(thread, .force), (other, .restore)] := by
      intro event member
      rcases List.mem_cons.mp member with rfl | member
      · exact Or.inl rfl
      · rw [List.mem_singleton.mp member]
        exact Or.inr rfl
    have unlawful := lawful _ _ (List.prefix_refl _) goesOn
    rw [List.append_assoc] at unlawful
    unfold System.run at unlawful
    rw [List.foldl_append] at unlawful
    exact (orderly.run before early).race different claimed ends unlawful

/-- Threads open and close captures of a host that is free at first.
However they go on with what they have begun, the host is forced while a
capture is open, and in its own mode while no thread is within one, if and
only if that mode is the forced one or no thread reads the mode while
another has yet to restore it. -/
theorem lawful_iff_serial (id : HostId) (world : World) (free : (world.hosts.get id).armed = none)
    (events : List (ThreadId × Move)) :
    (∀ before pending, before <+: events → Pending pending →
        Lawful id (world.hosts.get id).mode ((start world).run id (before ++ pending))) ↔
      (world.hosts.get id).mode = .forced ∨ Serial id (start world) events := by
  have orderly := start_orderly free
  constructor
  · intro lawful
    by_cases forced : (world.hosts.get id).mode = .forced
    · exact Or.inl forced
    · exact Or.inr (serial_of_lawful orderly forced events lawful)
  · rintro (forced | serial) before pending earlier goesOn
    · have always := @run_forced id (start world) forced (fun _ => ⟨trivial, trivial⟩) (before ++ pending)
      rw [forced]
      exact ⟨fun _ _ => always.1, fun _ => always.1⟩
    · exact (orderly.run _ ((serial.of_prefix earlier).append_pending goesOn)).lawful

open Session

/-- A thread beside the one that evaluates the forms of a session. -/
def secondThread : ThreadId := ⟨1⟩

/-- The second thread opens a capture after the first has ended its level, and
before it restores the mode. The first thread is left with the restoring of
the mode still to be done. -/
def race : List (ThreadId × Move) :=
  [(mainThread, .begin preparedUnit false), (mainThread, .read), (mainThread, .force), (mainThread, .finish),
    (secondThread, .begin preparedUnit false), (secondThread, .read), (secondThread, .force),
    (mainThread, .restore)]

theorem race_not_serial : ¬ Serial firstHost (start prepared) race := by
  intro serial
  have lawful := (lawful_iff_serial firstHost prepared rfl race).mpr (Or.inr serial) race [] (List.prefix_refl _)
    (by simp [Pending])
  have forced := lawful.1 secondThread (by decide +kernel)
  revert forced
  decide +kernel

/-- In the race, the host is not forced while the second capture is open, and
stays forced behind both. -/
theorem race_unlawful :
    ¬ Lawful firstHost (prepared.hosts.get firstHost).mode ((start prepared).run firstHost race) ∧
      ((start prepared).run firstHost (race ++ [(mainThread, .emit), (secondThread, .finish),
        (secondThread, .restore), (secondThread, .emit)])).mode firstHost = .forced := by
  refine ⟨fun lawful => ?_, by decide +kernel⟩
  have forced := lawful.1 secondThread (by decide +kernel)
  revert forced
  decide +kernel

end System

end CallCapture
