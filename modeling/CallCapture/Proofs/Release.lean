import CallCapture.Proofs.Captures
import CallCapture.Proofs.Levels
import CallCapture.Proofs.Reach
import Mathlib.Data.List.Induction

namespace CallCapture

/-- The guards that a thread holds, oldest first. They are numbered from the
oldest on, whichever have been closed. -/
structure Hands where
  world : World
  guards : List Guard

namespace Hands

/-- What a thread can do with captures; a guard is named by its place among
those that are held. -/
inductive Move where
  | begin (precompiler : Precompiler)
  | finish (index : Nat)
  | drop (index : Nat)

/-- The place of the guard that a move closes. It names a guard by its place
among those that are held. -/
def Move.closes : Move → Option Nat
  | begin _ => none
  | finish index | drop index => some index

/-- The guard at a place is closed, if there is one. It is no longer held,
however the ending went. -/
def close {α : Type} (hands : Hands) (index : Nat) (ending : Guard → Act α) : Hands :=
  match hands.guards[index]? with
  | none => hands
  | some guard => ⟨(ending guard).after hands.world, hands.guards.eraseIdx index⟩

/-- What is held behind a move, and the world behind it. A capture that is
refused, or whose gate is closed, is not held. A finish and a drop put
back the same mode. -/
def step (id : HostId) (thread : ThreadId) (hands : Hands) : Move → Hands
  | .begin precompiler =>
    match ((precompiler.onHost id).beginCapture thread).run hands.world with
    | (.ok (some guard), world) => ⟨world, hands.guards ++ [guard]⟩
    | (_, world) => ⟨world, hands.guards⟩
  | .finish index => hands.close index Guard.disarm
  | .drop index => hands.close index Guard.drop

/-- What is held behind several moves. It is defined by the single moves, so
that what each of them keeps is kept by all. -/
def run (id : HostId) (thread : ThreadId) (hands : Hands) (moves : List Move) : Hands :=
  moves.foldl (step id thread) hands

/-- How the host compiles. Every guard of the hands has forced it
when it was begun. -/
def mode (hands : Hands) (id : HostId) : CompileMode := (hands.world.hosts.get id).mode

/-- The host is forced while a capture is held, and in its own mode while
none is. It is the same law as for several threads, here for one of them that
mixes up its guards. -/
def Lawful (id : HostId) (own : CompileMode) (hands : Hands) : Prop :=
  hands.mode id = if hands.guards = [] then own else .forced

/-- The oldest guard is closed only when no other is held. The others may be
closed in any order before. -/
def OldestLast (id : HostId) (thread : ThreadId) (start : Hands) (moves : List Move) : Prop :=
  ∀ before move, before ++ [move] <+: moves → move.closes = some 0 → (start.run id thread before).guards.length ≤ 1

/-- The oldest guard has found the host's own mode, and all others have
found it forced. As each puts back the mode that it found, only the oldest
one puts back the mode of the host. To close another than the oldest
leaves this as it is. -/
def Stacked (id : HostId) (own : CompileMode) (hands : Hands) : Prop :=
  (∀ guard ∈ hands.guards, guard.precompiler.engine = id) ∧
    match hands.guards with
    | [] => hands.mode id = own
    | oldest :: rest => oldest.previous = own ∧ (∀ guard ∈ rest, guard.previous = .forced) ∧ hands.mode id = .forced

/-- Guards that have found what they should have found leave the host
in the right mode. -/
theorem Stacked.lawful {id : HostId} {own : CompileMode} {hands : Hands} (stacked : Stacked id own hands) :
    Lawful id own hands := by
  obtain ⟨world, guards⟩ := hands
  cases guards with
  | nil => exact stacked.2
  | cons oldest rest => exact stacked.2.2.2

theorem run_append_singleton (id : HostId) (thread : ThreadId) (start : Hands) (before : List Move) (move : Move) :
    start.run id thread (before ++ [move]) = (start.run id thread before).step id thread move := by
  unfold run
  rw [List.foldl_append]
  rfl

theorem step_begin (id : HostId) (thread : ThreadId) (hands : Hands) (precompiler : Precompiler) :
    ((hands.step id thread (.begin precompiler)).guards = hands.guards ∧
        (hands.step id thread (.begin precompiler)).mode id = hands.mode id) ∨
      ∃ guard : Guard, guard.precompiler.engine = id ∧ guard.previous = hands.mode id ∧
        (hands.step id thread (.begin precompiler)).guards = hands.guards ++ [guard] ∧
        (hands.step id thread (.begin precompiler)).mode id = .forced := by
  obtain ⟨outcome, later, begun, begins⟩ := (precompiler.onHost id).beginCapture_run thread hands.world
  unfold step
  dsimp only
  rw [begun]
  cases begins with
  | closed said => exact Or.inl ⟨rfl, congrArg (fun hosts => (Store.get hosts id).mode) said.hosts⟩
  | halted said => exact Or.inl ⟨rfl, congrArg (fun hosts => (Store.get hosts id).mode) said.hosts⟩
  | @opened guard _ gated _ _ same said opens =>
    have engine : guard.precompiler.engine = id := by rw [same]; rfl
    have previous := opens.previous
    have forced := opens.mode
    rw [engine] at previous forced
    rw [said.hosts] at previous
    exact Or.inr ⟨guard, engine, previous, rfl, forced⟩

/-- Closing a capture puts back the mode that it found. What else is
held does not count. -/
theorem close_mode {α : Type} {id : HostId} {hands : Hands} {index : Nat} {ending : Guard → Act α} {guard : Guard}
    (closes : ∀ guard world, Guard.ClosesQuietly guard world ((ending guard).after world))
    (held : hands.guards[index]? = some guard) (engine : guard.precompiler.engine = id) :
    (hands.close index ending).guards = hands.guards.eraseIdx index ∧
      (hands.close index ending).mode id = guard.previous := by
  obtain ⟨closing, closed, remarks, done, said⟩ := closes guard hands.world
  unfold close
  rw [held]
  refine ⟨rfl, ?_⟩
  unfold mode
  rw [said.hosts, ← engine]
  exact done.mode

/-- A capture on top of others finds the forced mode, and the first one the
mode of the host. -/
theorem Stacked.begin {id : HostId} {own : CompileMode} {hands : Hands} (stacked : Stacked id own hands)
    (thread : ThreadId) (precompiler : Precompiler) : Stacked id own (hands.step id thread (.begin precompiler)) := by
  obtain ⟨engines, order⟩ := stacked
  rcases hands.step_begin id thread precompiler with ⟨guards, mode⟩ | ⟨guard, engine, previous, guards, forced⟩
  · unfold Stacked
    rw [guards, mode]
    exact ⟨engines, order⟩
  · unfold Stacked
    rw [guards, forced]
    refine ⟨?_, ?_⟩
    · intro held member
      rcases List.mem_append.mp member with old | new
      · exact engines held old
      · rw [List.mem_singleton.mp new, engine]
    · cases held : hands.guards with
      | nil =>
        rw [held] at order
        exact ⟨previous.trans order, fun _ member => (nomatch member), rfl⟩
      | cons oldest rest =>
        rw [held] at order
        obtain ⟨found, others, still⟩ := order
        refine ⟨found, fun other member => ?_, rfl⟩
        rcases List.mem_append.mp member with old | new
        · exact others other old
        · rw [List.mem_singleton.mp new, previous, still]

/-- A guard that is not the oldest, the only one, or any on a host that is
forced by itself can be closed. -/
theorem Stacked.close {α : Type} {id : HostId} {own : CompileMode} {hands : Hands} {index : Nat}
    {ending : Guard → Act α} (stacked : Stacked id own hands)
    (closes : ∀ guard world, Guard.ClosesQuietly guard world ((ending guard).after world))
    (allowed : own = .forced ∨ (index = 0 → hands.guards.length ≤ 1)) : Stacked id own (hands.close index ending) := by
  cases held : hands.guards[index]? with
  | none =>
    unfold Hands.close
    rw [held]
    exact stacked
  | some guard =>
    obtain ⟨engines, order⟩ := stacked
    obtain ⟨guards, mode⟩ := close_mode closes held (engines guard (List.mem_of_getElem? held))
    unfold Stacked
    rw [guards, mode]
    refine ⟨fun other member => engines other (List.mem_of_mem_eraseIdx member), ?_⟩
    cases stack : hands.guards with
    | nil =>
      rw [stack] at held
      cases held
    | cons oldest rest =>
      rw [stack] at order held allowed
      obtain ⟨found, others, still⟩ := order
      cases index with
      | zero =>
        cases held
        cases rest with
        | nil => exact found
        | cons second rest =>
          have forced : own = .forced := allowed.resolve_right fun single => by
            have short := single rfl
            simp at short
          refine ⟨?_, fun other member => others other (List.mem_cons_of_mem _ member), found.trans forced⟩
          rw [forced]
          exact others second (List.mem_cons_self ..)
      | succ index =>
        have member : guard ∈ rest := List.mem_of_getElem? held
        exact ⟨found, fun other later => others other (List.mem_of_mem_eraseIdx later), others guard member⟩

/-- Closing the oldest of several guards is seen at once, unless the host is
forced by itself. -/
theorem Stacked.close_oldest {α : Type} {id : HostId} {own : CompileMode} {hands : Hands} {ending : Guard → Act α}
    (stacked : Stacked id own hands)
    (closes : ∀ guard world, Guard.ClosesQuietly guard world ((ending guard).after world))
    (several : 2 ≤ hands.guards.length) (lawful : Lawful id own (hands.close 0 ending)) : own = .forced := by
  obtain ⟨engines, order⟩ := stacked
  cases stack : hands.guards with
  | nil =>
    rw [stack] at several
    simp at several
  | cons oldest rest =>
    rw [stack] at order several
    have held : hands.guards[0]? = some oldest := by rw [stack]; rfl
    have member : oldest ∈ hands.guards := List.mem_of_getElem? held
    obtain ⟨guards, mode⟩ := close_mode closes held (engines oldest member)
    have left : rest ≠ [] := by
      rintro rfl
      simp at several
    unfold Lawful at lawful
    rw [guards, mode, stack, List.eraseIdx_cons_zero, if_neg left, order.1] at lawful
    exact lawful

/-- A move keeps the order, unless it closes the oldest of several guards. One
case for each kind of move. -/
theorem Stacked.step {id : HostId} {own : CompileMode} {hands : Hands} (stacked : Stacked id own hands)
    (thread : ThreadId) (move : Move)
    (allowed : own = .forced ∨ (move.closes = some 0 → hands.guards.length ≤ 1)) :
    Stacked id own (hands.step id thread move) := by
  cases move with
  | begin precompiler => exact stacked.begin thread precompiler
  | finish index =>
    exact stacked.close Guard.disarm_closesQuietly (allowed.imp_right fun single zero => single (by rw [zero]; rfl))
  | drop index =>
    exact stacked.close Guard.drop_closesQuietly (allowed.imp_right fun single zero => single (by rw [zero]; rfl))

/-- A move that closes the oldest of several guards is lawful only on a host
that is forced by itself. -/
theorem Stacked.step_oldest {id : HostId} {own : CompileMode} {hands : Hands} (stacked : Stacked id own hands)
    (thread : ThreadId) (move : Move) (oldest : move.closes = some 0) (several : 2 ≤ hands.guards.length)
    (lawful : Lawful id own (hands.step id thread move)) : own = .forced := by
  cases move with
  | begin precompiler => cases oldest
  | finish index =>
    cases oldest
    exact stacked.close_oldest Guard.disarm_closesQuietly several lawful
  | drop index =>
    cases oldest
    exact stacked.close_oldest Guard.drop_closesQuietly several lawful

theorem OldestLast.of_prefix {id : HostId} {thread : ThreadId} {start : Hands} {early moves : List Move}
    (last : OldestLast id thread start moves) (earlier : early <+: moves) : OldestLast id thread start early :=
  fun before move occurs closes => last before move (occurs.trans earlier) closes

/-- Another move leaves the oldest to the end just if those before it do
and it does itself. -/
theorem oldestLast_append_singleton {id : HostId} {thread : ThreadId} {start : Hands} {moves : List Move}
    {move : Move} : OldestLast id thread start (moves ++ [move]) ↔
      OldestLast id thread start moves ∧ (move.closes = some 0 → (start.run id thread moves).guards.length ≤ 1) := by
  constructor
  · intro last
    exact ⟨last.of_prefix (List.prefix_append ..), fun closes => last moves move (List.prefix_refl _) closes⟩
  · rintro ⟨early, late⟩ before other occurs closes
    rcases List.prefix_concat_iff.mp occurs with same | earlier
    · obtain ⟨rfl, equal⟩ := List.append_inj' same rfl
      cases equal
      exact late closes
    · exact early before other earlier closes

/-- Moves that leave the oldest guard to the end keep the order throughout, by
induction on them. On a host that is forced by itself any order will do. -/
theorem Stacked.run {id : HostId} {own : CompileMode} {start : Hands} (stacked : Stacked id own start)
    (thread : ThreadId) (moves : List Move) (allowed : own = .forced ∨ OldestLast id thread start moves) :
    Stacked id own (start.run id thread moves) := by
  induction moves using List.reverseRecOn with
  | nil => exact stacked
  | append_singleton before move ih =>
    rw [run_append_singleton]
    rcases allowed with forced | last
    · exact (ih (Or.inl forced)).step thread move (Or.inl forced)
    · obtain ⟨early, late⟩ := oldestLast_append_singleton.mp last
      exact (ih (Or.inr early)).step thread move (Or.inr late)

/-- If the modes are right behind every beginning of the moves, the oldest
guard is closed last. By induction on the moves from their end. -/
theorem Stacked.oldestLast {id : HostId} {own : CompileMode} {start : Hands} (stacked : Stacked id own start)
    (thread : ThreadId) (adaptive : own ≠ .forced) (moves : List Move)
    (lawful : ∀ before, before <+: moves → Lawful id own (start.run id thread before)) :
    OldestLast id thread start moves := by
  induction moves using List.reverseRecOn with
  | nil =>
    intro before move occurs
    exact absurd (List.prefix_nil.mp occurs) (by simp)
  | append_singleton before move ih =>
    have early := ih fun earlier occurs => lawful earlier (occurs.trans (List.prefix_append ..))
    refine oldestLast_append_singleton.mpr ⟨early, fun oldest => ?_⟩
    have behind := lawful _ (List.prefix_refl _)
    rw [run_append_singleton] at behind
    by_contra several
    have reached := stacked.run thread before (Or.inr early)
    exact adaptive (reached.step_oldest thread move oldest (by omega) behind)

/-- Whatever a thread does with captures of a host, the host is forced
while one is held and has its own mode while none is, if and only if
that mode is the forced one or the oldest capture is never closed while
there are others. -/
theorem lawful_iff_oldestLast (id : HostId) (thread : ThreadId) (world : World) (moves : List Move) :
    (∀ before, before <+: moves →
        Lawful id (world.hosts.get id).mode (Hands.run id thread ⟨world, []⟩ before)) ↔
      (world.hosts.get id).mode = .forced ∨ OldestLast id thread ⟨world, []⟩ moves := by
  have stacked : Stacked id (world.hosts.get id).mode ⟨world, []⟩ := ⟨fun _ member => (nomatch member), rfl⟩
  constructor
  · intro lawful
    by_cases forced : (world.hosts.get id).mode = .forced
    · exact Or.inl forced
    · exact Or.inr (stacked.oldestLast thread forced moves lawful)
  · intro allowed before earlier
    exact (stacked.run thread before (allowed.imp_right fun last => last.of_prefix earlier)).lawful

open Session

/-- Two captures are opened, and the oldest is closed first. -/
def oldestFirst : List Move := [.begin preparedUnit, .begin preparedUnit, .finish 0]

/-- The host is not forced for the capture that is left, and stays
forced behind both. -/
theorem oldestFirst_unlawful :
    ¬ (∀ before, before <+: oldestFirst →
        Lawful firstHost (prepared.hosts.get firstHost).mode (Hands.run firstHost mainThread ⟨prepared, []⟩ before)) ∧
      (Hands.run firstHost mainThread ⟨prepared, []⟩ (oldestFirst ++ [.finish 0])).mode firstHost = .forced := by
  refine ⟨fun lawful => ?_, by decide +kernel⟩
  have behind := lawful _ (List.prefix_refl _)
  revert behind
  unfold Lawful
  decide +kernel

end Hands

end CallCapture
