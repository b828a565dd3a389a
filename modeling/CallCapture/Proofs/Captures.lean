import CallCapture.Proofs.Follow
import CallCapture.Session.Eval

namespace CallCapture

namespace Act

theorem outcome_host (id : HostId) (world : World) : (host id).outcome world = .ok (world.hosts.get id) := rfl

/-- A monitor that refuses a capture says so, and leaves its host as it is.
This is the only way in which a level is not opened. -/
theorem beginLevel_refused {id : HostId} (unit : String) {verbose : Bool} {thread : ThreadId} {world : World}
    (refused : (world.hosts.get id).beginCapture? thread verbose = none) :
    (beginLevel id unit verbose thread).outcome world = .error (.error (.reentrancy unit)) ∧
      (beginLevel id unit verbose thread).after world = world.noting (.refused id unit) := by
  unfold beginLevel
  rw [outcome_bind_ok (outcome_host id world), after_bind_ok (outcome_host id world), refused]
  exact ⟨rfl, rfl⟩

/-- A monitor that lets a capture begin has added a level to its host,
and shows which one. -/
theorem beginLevel_begun {id : HostId} (unit : String) {verbose : Bool} {thread : ThreadId} {world : World}
    {nesting : Nesting} {changed : Host Form}
    (begun : (world.hosts.get id).beginCapture? thread verbose = some (nesting, changed)) :
    (beginLevel id unit verbose thread).outcome world = .ok nesting ∧
      Moved world id changed [nesting.occurrence id unit] ((beginLevel id unit verbose thread).after world) := by
  unfold beginLevel
  rw [outcome_bind_ok (outcome_host id world), after_bind_ok (outcome_host id world), begun]
  cases nesting with
  | outermost => exact ⟨rfl, .put world id changed [.armed id unit]⟩
  | nested depth => exact ⟨rfl, .put world id changed [.nested id unit depth]⟩

theorem endLevel_ended (id : HostId) (world : World) :
    (endLevel id).outcome world = .ok (world.hosts.get id).endCapture.1 ∧
      Moved world id (world.hosts.get id).endCapture.2 [(world.hosts.get id).endCapture.1.occurrence id]
        ((endLevel id).after world) := by
  unfold endLevel
  rw [outcome_bind_ok (outcome_host id world), after_bind_ok (outcome_host id world)]
  rcases (world.hosts.get id).endCapture with ⟨ending, changed⟩
  cases ending with
  | unarmed => exact ⟨rfl, .put world id changed [.endedUnarmed id]⟩
  | nested => exact ⟨rfl, .put world id changed [.levelEnded id]⟩
  | outermost recorded => exact ⟨rfl, .put world id changed [.disarmed id recorded.size]⟩

/-- A lock answers with the mode that it has found, and forces its
host. Two locks in a row answer with different modes, the second one
with the forced mode. -/
theorem lock_locked (id : HostId) (world : World) :
    (lock id).outcome world = .ok (world.hosts.get id).mode ∧
      Moved world id ((world.hosts.get id).setMode .forced) [.locked id (world.hosts.get id).mode]
        ((lock id).after world) :=
  ⟨rfl, .put world id _ [_]⟩

/-- To unlock is to put back the mode that was given, whatever
the mode is by then. -/
theorem unlock_released (id : HostId) (previous : CompileMode) (world : World) :
    (unlock id previous).outcome world = .ok () ∧
      Moved world id ((world.hosts.get id).setMode previous) [.released id previous]
        ((unlock id previous).after world) :=
  ⟨rfl, .put world id _ [_]⟩

end Act

namespace Precompiler

open Act

/-- A precompiler that records the calls of a host and makes the
same host compile. -/
def onHost (precompiler : Precompiler) (id : HostId) : Precompiler :=
  { precompiler with monitor := id, engine := id }

/-- How the opening of a capture ends: no capture is opened, and no host
is touched; or one is opened behind the gate. Whoever proves something
of a capture goes through these cases once, instead of through gate,
monitor and lock. -/
inductive Begins (precompiler : Precompiler) (world : World) : Except Halt (Option Guard) → World → Prop
  | closed {remarks later} : Remarks world remarks later → Begins precompiler world (.ok none) later
  | halted {remarks later halt} : Remarks world remarks later → Begins precompiler world (.error halt) later
  | opened {guard remarks gated opening later} : guard.precompiler = precompiler → Remarks world remarks gated →
      Opens guard gated opening later → Begins precompiler world (.ok (some guard)) later

/-- A capture asks its gate, claims its host and forces its engine, in this
order. Where one of the first two fails, no host has been touched. The order
matters: a refusal must not leave a forced engine behind. -/
theorem beginCapture_begins (precompiler : Precompiler) (thread : ThreadId) (world : World) :
    precompiler.Begins world ((precompiler.beginCapture thread).outcome world)
      ((precompiler.beginCapture thread).after world) := by
  obtain ⟨remarks, said⟩ := precompiler.remarking_gate world
  unfold beginCapture
  cases asked : precompiler.gate.outcome world with
  | error halt =>
    rw [outcome_bind, after_bind_error asked, asked]
    exact .halted said
  | ok answer =>
    rw [outcome_bind_ok asked, after_bind_ok asked]
    cases answer with
    | none => exact .closed said
    | some flags =>
      cases level : ((precompiler.gate.after world).hosts.get precompiler.monitor).beginCapture? thread
          flags.verbose with
      | none =>
        obtain ⟨failed, left⟩ := beginLevel_refused precompiler.unit level
        rw [outcome_bind, after_bind_error failed, failed, left]
        exact .halted (said.trans (.noting _ rfl))
      | some claimed =>
        obtain ⟨nesting, changed⟩ := claimed
        obtain ⟨begun, claim⟩ := beginLevel_begun precompiler.unit level
        obtain ⟨locked, lock⟩ := lock_locked precompiler.engine
          ((Act.beginLevel precompiler.monitor precompiler.unit flags.verbose thread).after
            (precompiler.gate.after world))
        rw [outcome_bind_ok begun, after_bind_ok begun, outcome_bind_ok locked, after_bind_ok locked]
        exact .opened rfl said (.intro level claim rfl lock)

/-- The same for the two sides of the run at once: what the opening comes to,
and the world behind it. -/
theorem beginCapture_run (precompiler : Precompiler) (thread : ThreadId) (world : World) : ∃ outcome later,
    (precompiler.beginCapture thread).run world = (outcome, later) ∧ precompiler.Begins world outcome later :=
  ⟨_, _, rfl, precompiler.beginCapture_begins thread world⟩

/-- Whatever comes behind the opening of a capture, it is enough to look at
what it does behind an open one. -/
theorem proceeds_beginCapture_bind {α : Type} {precompiler : Precompiler} {thread : ThreadId}
    {next : Option Guard → Act α} (unopened : Proceeds (next none))
    (opened : ∀ {guard gated opening later}, Opens guard gated opening later →
      ∃ occurrences, Course gated occurrences ((next (some guard)).after later)) :
    Proceeds (precompiler.beginCapture thread >>= next) := by
  intro world
  have begins := precompiler.beginCapture_begins thread world
  rw [after_bind]
  revert begins
  generalize (precompiler.beginCapture thread).outcome world = outcome
  generalize (precompiler.beginCapture thread).after world = later
  intro begins
  cases begins with
  | closed said => exact (Course.quiet said.quiet).onward (unopened later)
  | halted said => exact ⟨_, .quiet said.quiet⟩
  | opened _ said opens => exact (Course.quiet said.quiet).onward (opened opens)

end Precompiler

namespace Guard

open Act

/-- An emission calls the sink once. What the sink answers is only spoken of.
An emission without signatures is handed over as well. -/
theorem emit_emits (guard : Guard) (signatures : List Signature) (world : World) :
    ∃ emission, Emits guard signatures world emission ((guard.precompiler.emit signatures).after world) := by
  obtain ⟨remarks, said⟩ := handOver_remarks (some guard.precompiler.monitor) guard.precompiler.sink
    ⟨guard.precompiler.artifact, signatures⟩ (world.noting (guard.emitting signatures))
  exact ⟨_, remarks, rfl, said⟩

/-- A capture that is disarmed ends its level and restores the mode, whether
its emission fails or not. The mode is restored before the sink is called, so
a failing sink cannot leave the host forced. -/
theorem disarm_closes (guard : Guard) (world : World) :
    ∃ closing, Closes guard world closing (guard.disarm.after world) := by
  obtain ⟨ended, level⟩ := endLevel_ended guard.precompiler.monitor world
  obtain ⟨released, unlock⟩ := unlock_released guard.precompiler.engine guard.previous
    ((endLevel guard.precompiler.monitor).after world)
  unfold disarm
  rw [after_bind_ok ended, after_bind_ok released]
  cases ending : (world.hosts.get guard.precompiler.monitor).endCapture.1 with
  | unarmed => exact ⟨_, @Closes.intro guard world _ _ _ [] level unlock (by rw [ending]; exact ⟨rfl, rfl⟩)⟩
  | nested => exact ⟨_, @Closes.intro guard world _ _ _ [] level unlock (by rw [ending]; exact ⟨rfl, rfl⟩)⟩
  | outermost recorded =>
    obtain ⟨emission, emits⟩ := guard.emit_emits recorded.signatures
      ((Act.unlock guard.precompiler.engine guard.previous).after
        ((endLevel guard.precompiler.monitor).after world))
    cases emitted : (guard.precompiler.emit recorded.signatures).outcome
        ((Act.unlock guard.precompiler.engine guard.previous).after
          ((endLevel guard.precompiler.monitor).after world)) with
    | error halt =>
      dsimp only
      rw [after_bind_error emitted]
      exact ⟨_, .intro level unlock (by rw [ending]; exact emits)⟩
    | ok _ =>
      dsimp only
      rw [after_bind_ok emitted]
      exact ⟨_, .intro level unlock (by rw [ending]; exact emits.append (.noting _ rfl))⟩

/-- The capture is closed, and then there are only remarks. The three ends of
a capture, by a workload, by hand and by a drop, are all of this kind. -/
def ClosesQuietly (guard : Guard) (world later : World) : Prop :=
  ∃ closing closed remarks, Closes guard world closing closed ∧ Remarks closed remarks later

theorem disarm_closesQuietly (guard : Guard) (world : World) :
    guard.ClosesQuietly world (guard.disarm.after world) := by
  obtain ⟨closing, closes⟩ := guard.disarm_closes world
  exact ⟨closing, _, [], closes, .refl _⟩

theorem ClosesQuietly.bind {guard : Guard} {world : World} {α β : Type} {action : Act α} {next : α → Act β}
    (closes : guard.ClosesQuietly world (action.after world)) (rest : ∀ value, Remarking (next value)) :
    guard.ClosesQuietly world ((action >>= next).after world) := by
  obtain ⟨closing, closed, remarks, done, said⟩ := closes
  cases ended : action.outcome world with
  | error halt => exact ⟨closing, closed, remarks, done, by rwa [after_bind_error ended]⟩
  | ok value =>
    obtain ⟨more, also⟩ := rest value (action.after world)
    exact ⟨closing, closed, remarks ++ more, done, by rw [after_bind_ok ended]; exact said.trans also⟩

/-- A guard that is dropped closes its capture. A failing emission is spoken
of there, and goes no further. -/
theorem drop_closesQuietly (guard : Guard) (world : World) :
    guard.ClosesQuietly world (guard.drop.after world) := by
  have attempted : guard.ClosesQuietly world ((attempt guard.disarm).after world) := guard.disarm_closesQuietly world
  refine attempted.bind fun result => ?_
  split
  · exact remarking_note rfl
  · exact remarking_throw _
  · exact remarking_pure ()

end Guard

namespace Context

open Act

/-- However a workload ends, its capture is closed. A panic of the workload is
no exception: it goes on behind the end of the capture. -/
theorem finishWorkload_closesQuietly (guard : Guard) (outcome : Except Halt Value) (world : World) :
    guard.ClosesQuietly world ((finishWorkload guard outcome).after world) := by
  have disarmed := guard.disarm_closesQuietly world
  unfold finishWorkload
  split
  · refine Guard.ClosesQuietly.bind ?_ fun _ => remarking_pure _
    rwa [after_discard]
  · have attempted : guard.ClosesQuietly world ((attempt guard.disarm).after world) := disarmed
    refine attempted.bind fun result => ?_
    dsimp only
    split
    · exact (remarking_note rfl).bind fun _ => remarking_throw _
    · exact (remarking_note rfl).bind fun _ => remarking_throw _
    · exact remarking_throw _
  · exact (guard.drop_closesQuietly world).bind fun _ => remarking_throw _

end Context

end CallCapture
