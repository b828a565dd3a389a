import CallCapture.Proofs.Levels
import CallCapture.Proofs.Steps

namespace CallCapture

namespace Host

variable {host changed : Host Form} {thread : ThreadId}

/-- How many levels of a host a thread has open. A host counts its levels as a
whole; as it has one owner, they are all of one thread. -/
def levelsOf (host : Host Form) (thread : ThreadId) : Nat :=
  match host.armed with
  | none => 0
  | some armed => if armed.owner = thread then armed.depth + 1 else 0

theorem levelsOf_begin {verbose : Bool} {nesting : Nesting}
    (begun : host.beginCapture? thread verbose = some (nesting, changed)) :
    changed.levelsOf thread = host.levelsOf thread + 1 ∧
      ∀ other, other ≠ thread → changed.levelsOf other = host.levelsOf other := by
  unfold beginCapture? at begun
  unfold levelsOf
  cases claimed : host.armed with
  | none =>
    rw [claimed] at begun
    cases begun
    exact ⟨if_pos rfl, fun other different => if_neg different.symm⟩
  | some armed =>
    rw [claimed] at begun
    dsimp only at begun
    split at begun
    · rename_i owner
      cases begun
      subst owner
      refine ⟨by simp, fun other different => ?_⟩
      simp [different.symm]
    · cases begun

theorem owner_of_levelsOf (holds : host.levelsOf thread ≠ 0) :
    ∃ armed, host.armed = some armed ∧ armed.owner = thread := by
  unfold levelsOf at holds
  cases claimed : host.armed with
  | none =>
    rw [claimed] at holds
    exact absurd rfl holds
  | some armed =>
    rw [claimed] at holds
    refine ⟨armed, rfl, ?_⟩
    by_contra other
    exact holds (if_neg other)

/-- A thread with levels that ends one has one less. Nobody else had any, and
nobody has any then. -/
theorem levelsOf_end (holds : host.levelsOf thread ≠ 0) :
    host.endCapture.2.levelsOf thread + 1 = host.levelsOf thread ∧
      ∀ other, other ≠ thread → host.endCapture.2.levelsOf other = host.levelsOf other := by
  obtain ⟨armed, claimed, rfl⟩ := owner_of_levelsOf holds
  unfold levelsOf
  rw [claimed]
  cases depth : armed.depth with
  | zero =>
    rw [endCapture_last claimed depth]
    refine ⟨by simp [depth], fun other different => ?_⟩
    simp [different.symm]
  | succ level =>
    rw [endCapture_nested claimed depth]
    refine ⟨by simp [depth], fun other different => ?_⟩
    simp [different.symm]

theorem levelsOf_other {other : ThreadId} (holds : host.levelsOf thread ≠ 0) (different : other ≠ thread) :
    host.levelsOf other = 0 := by
  obtain ⟨armed, claimed, rfl⟩ := owner_of_levelsOf holds
  unfold levelsOf
  rw [claimed]
  exact if_neg different.symm

end Host

/-- The mode that a capture finds when it comes on top of others. On top of
other captures of the same thread, the host has been forced already. -/
def found (own : CompileMode) : List Guard → CompileMode
  | [] => own
  | _ :: _ => .forced

/-- Each guard remembers the mode that it should have found. The guards are
those of one thread, the latest first. -/
def SavedModes (own : CompileMode) : List Guard → Prop
  | [] => True
  | guard :: rest => guard.previous = found own rest ∧ SavedModes own rest

namespace Stage

/-- The level that a thread holds besides those of its guards. The level of a
capture that is being opened is held before there is a guard. -/
def level : Stage → Nat
  | claimed .. | reading .. => 1
  | _ => 0

/-- The thread has claimed the host and has not read the mode yet. Others
cannot claim it from then on. -/
def IsClaimed : Stage → Prop
  | claimed .. => True
  | _ => False

/-- The thread has read the mode and has not forced the host yet. If another
thread restored the mode now, what was read would be out of date. -/
def IsReading : Stage → Prop
  | reading .. => True
  | _ => False

/-- The thread has ended its level and has not restored the mode
yet. In this gap another thread can claim the host and read a mode
that is about to change. -/
def IsEnded : Stage → Prop
  | ended .. => True
  | _ => False

/-- The mode that is remembered between two steps is the one that
should have been found. -/
def Saved (own : CompileMode) (guards : List Guard) : Stage → Prop
  | reading _ _ previous => previous = found own guards
  | ended guard _ => guard.previous = found own guards
  | _ => True

end Stage

namespace Party

/-- How many levels a thread holds, with the one that it is about to open. It
is what the host should have counted for the thread. -/
def levels (party : Party) : Nat := party.guards.length + party.stage.level

/-- The host is forced for a capture of the thread. A thread whose level has
ended but whose mode is not restored still counts. -/
def Raised (party : Party) : Prop := party.guards ≠ [] ∨ party.stage.IsEnded

/-- All modes that the thread remembers are those that it should have
found. It holds of the guards in its hand and of the one that it is
opening or closing. -/
def Saved (own : CompileMode) (party : Party) : Prop :=
  SavedModes own party.guards ∧ party.stage.Saved own party.guards

end Party

namespace System

/-- A step that changes the levels of a thread changes its levels of the host,
and no other's. What becomes of the mode is no part of it. -/
def Counts (host changed : Host Form) (thread : ThreadId) (party : Party) : Prop :=
  party.levels = changed.levelsOf thread ∧ ∀ other, other ≠ thread → changed.levelsOf other = host.levelsOf other

/-- Each step does this. A thread that is about to end a level has one, as
it holds a guard. This is where it is used that a host belongs to one
thread at a time. -/
theorem Turn.counts {id : HostId} {host changed : Host Form} {thread : ThreadId} {party later : Party} {next : Move}
    (turn : Turn id thread host party next changed later) (owned : party.levels = host.levelsOf thread) :
    Counts host changed thread later := by
  unfold Party.levels at owned
  unfold Counts Party.levels
  cases turn with
  | idle => exact ⟨owned, fun _ _ => rfl⟩
  | begin free begun =>
    obtain ⟨self, others⟩ := Host.levelsOf_begin begun
    rw [free] at owned
    refine ⟨?_, others⟩
    rw [self, ← owned]
    rfl
  | read claimed =>
    rw [claimed] at owned
    exact ⟨owned, fun _ _ => rfl⟩
  | force reading =>
    rw [reading] at owned
    exact ⟨owned, fun _ _ => rfl⟩
  | finish free held =>
    rw [free, held] at owned
    have holds : host.levelsOf thread ≠ 0 := by
      rw [← owned]
      exact Nat.succ_ne_zero _
    obtain ⟨self, others⟩ := Host.levelsOf_end holds
    rw [← self] at owned
    exact ⟨Nat.succ.inj owned, others⟩
  | restore ended =>
    rw [ended] at owned
    exact ⟨owned, fun _ _ => rfl⟩
  | emit restored =>
    rw [restored] at owned
    exact ⟨owned, fun _ _ => rfl⟩

/-- What holds while no thread reads the mode between the end of another's
last level and the restoring of the mode: the host is forced just for
those that have raised it, and a thread that is about to restore the mode
is alone. All of this is lost when a mode is read too early, and nothing
else can break it. -/
structure Orderly (own : CompileMode) (host : Host Form) (parties : ThreadId → Party) : Prop where
  owned : ∀ thread, (parties thread).levels = host.levelsOf thread
  saved : ∀ thread, (parties thread).Saved own
  raised : ∀ thread, (parties thread).Raised → host.mode = .forced
  lowered : (∀ thread, ¬ (parties thread).Raised) → host.mode = own
  alone : ∀ thread, (parties thread).stage.IsEnded →
    ∀ other, other ≠ thread → ¬ (parties other).Raised ∧ ¬ (parties other).stage.IsReading

namespace Orderly

variable {own : CompileMode} {host changed : Host Form} {parties : ThreadId → Party} {thread : ThreadId} {party : Party}

/-- While one thread holds levels, all others hold neither guards nor
levels. -/
theorem others_empty (orderly : Orderly own host parties) (holds : (parties thread).levels ≠ 0) {other : ThreadId}
    (different : other ≠ thread) : (parties other).guards = [] ∧ (parties other).stage.level = 0 := by
  rw [orderly.owned] at holds
  have none := (orderly.owned other).trans (Host.levelsOf_other holds different)
  unfold Party.levels at none
  exact ⟨List.length_eq_zero_iff.mp (by omega), by omega⟩

/-- What has to be looked at when one thread and the host change. The
other threads are where they were, so only what ties them to the host
has to be looked at. -/
theorem update (orderly : Orderly own host parties)
    (counts : Counts host changed thread party)
    (saved : party.Saved own)
    (raised : party.Raised ∨ (∃ other, other ≠ thread ∧ (parties other).Raised) → changed.mode = .forced)
    (lowered : ¬ party.Raised → (∀ other, other ≠ thread → ¬ (parties other).Raised) → changed.mode = own)
    (alone : party.stage.IsEnded → ∀ other, other ≠ thread →
      ¬ (parties other).Raised ∧ ¬ (parties other).stage.IsReading)
    (alongside : ∀ other, other ≠ thread → (parties other).stage.IsEnded →
      ¬ party.Raised ∧ ¬ party.stage.IsReading) :
    Orderly own changed (Function.update parties thread party) where
  owned := by
    rw [Function.forall_update_iff parties fun other party => party.levels = changed.levelsOf other]
    exact ⟨counts.1, fun other different => by rw [counts.2 other different, orderly.owned]⟩
  saved := by
    rw [Function.forall_update_iff parties fun _ party => party.Saved own]
    exact ⟨saved, fun other _ => orderly.saved other⟩
  raised := by
    rw [Function.forall_update_iff parties fun _ party => party.Raised → changed.mode = .forced]
    exact ⟨fun up => raised (Or.inl up), fun other different up => raised (Or.inr ⟨other, different, up⟩)⟩
  lowered := by
    rw [Function.forall_update_iff parties fun _ party => ¬ party.Raised]
    exact fun down => lowered down.1 down.2
  alone := by
    intro first ends other different
    by_cases self : first = thread
    · subst self
      rw [Function.update_self] at ends
      rw [Function.update_of_ne different]
      exact alone ends other different
    · rw [Function.update_of_ne self] at ends
      by_cases same : other = thread
      · subst same
        rw [Function.update_self]
        exact alongside first self ends
      · rw [Function.update_of_ne same]
        exact orderly.alone first ends other different

theorem raised_of_or (orderly : Orderly own host parties)
    (up : (parties thread).Raised ∨ ∃ other, other ≠ thread ∧ (parties other).Raised) : host.mode = .forced := by
  rcases up with self | ⟨other, _, up⟩
  · exact orderly.raised thread self
  · exact orderly.raised other up

theorem lowered_of_and (orderly : Orderly own host parties) (down : ¬ (parties thread).Raised)
    (others : ∀ other, other ≠ thread → ¬ (parties other).Raised) : host.mode = own := by
  refine orderly.lowered fun other => ?_
  by_cases same : other = thread
  · rwa [same]
  · exact others other same

/-- A step that is no reading and leaves the mode alone, and whether the
thread raises it. -/
theorem keep (orderly : Orderly own host parties) (mode : changed.mode = host.mode)
    (counts : Counts host changed thread party)
    (saved : party.Saved own) (raised : party.Raised ↔ (parties thread).Raised) (ends : ¬ party.stage.IsEnded)
    (reading : ¬ party.stage.IsReading) : Orderly own changed (Function.update parties thread party) := by
  refine orderly.update counts saved ?_ ?_ (fun ended => absurd ended ends) ?_
  · rw [raised, mode]
    exact orderly.raised_of_or
  · rw [raised, mode]
    exact orderly.lowered_of_and
  · intro other different ended
    rw [raised]
    exact ⟨(orderly.alone other ended thread different.symm).1, reading⟩

theorem claim (orderly : Orderly own host parties) {precompiler : Precompiler} {verbose : Bool} {nesting : Nesting}
    (free : (parties thread).stage = .free)
    (begun : host.beginCapture? thread verbose = some (nesting, changed))
    (counts : Counts host changed thread { parties thread with stage := .claimed precompiler nesting }) :
    Orderly own changed (Function.update parties thread
      { parties thread with stage := .claimed precompiler nesting }) := by
  have raised : (parties thread).Raised ↔ (parties thread).guards ≠ [] := by
    unfold Party.Raised
    rw [free]
    exact or_iff_left id
  refine orderly.keep (Host.beginCapture?_mode begun).1 counts ⟨(orderly.saved thread).1, trivial⟩ ?_ id id
  rw [raised]
  exact or_iff_left id

/-- The mode is read where no other thread has yet to restore it, so it
is the one that should be found. This is the one place where the history
has to be serial. -/
theorem read (orderly : Orderly own host parties) {precompiler : Precompiler} {nesting : Nesting}
    (claimed : (parties thread).stage = .claimed precompiler nesting)
    (serial : ∀ other, other ≠ thread → ¬ (parties other).stage.IsEnded)
    (counts : Counts host host thread { parties thread with stage := .reading precompiler nesting host.mode }) :
    Orderly own host (Function.update parties thread
      { parties thread with stage := .reading precompiler nesting host.mode }) := by
  have holds : (parties thread).levels ≠ 0 := by
    unfold Party.levels
    rw [claimed]
    exact Nat.succ_ne_zero _
  have raised : (parties thread).Raised ↔ (parties thread).guards ≠ [] := by
    unfold Party.Raised
    rw [claimed]
    exact or_iff_left id
  have others : ∀ other, other ≠ thread → ¬ (parties other).Raised := by
    rintro other different (up | ends)
    · exact up (orderly.others_empty holds different).1
    · exact serial other different ends
  have finds : host.mode = found own (parties thread).guards := by
    cases stack : (parties thread).guards with
    | nil =>
      refine orderly.lowered_of_and ?_ others
      rw [raised, stack]
      exact fun nonempty => nonempty rfl
    | cons latest rest =>
      refine orderly.raised thread (raised.mpr ?_)
      rw [stack]
      exact List.cons_ne_nil latest rest
  refine orderly.update counts ⟨(orderly.saved thread).1, finds⟩ ?_ ?_ (fun ends => ends.elim) ?_
  · intro up
    refine @raised_of_or own host parties thread orderly (up.imp_left fun self => raised.mpr ?_)
    exact self.resolve_right id
  · intro down
    refine orderly.lowered_of_and fun up => down (Or.inl (raised.mp up))
  · exact fun other different ends => absurd ends (serial other different)

/-- A thread forces the host for itself. It is the owner, so nobody else
is about to restore the mode. What it has read is remembered in its
guard from here on. -/
theorem force (orderly : Orderly own host parties) {precompiler : Precompiler} {nesting : Nesting}
    {previous : CompileMode} (reading : (parties thread).stage = .reading precompiler nesting previous)
    (counts : Counts host (host.setMode .forced) thread
      { guards := ⟨precompiler, previous, nesting⟩ :: (parties thread).guards }) :
    Orderly own (host.setMode .forced) (Function.update parties thread
      { guards := ⟨precompiler, previous, nesting⟩ :: (parties thread).guards }) := by
  obtain ⟨savedGuards, savedStage⟩ := orderly.saved thread
  rw [reading] at savedStage
  have up : Party.Raised { guards := ⟨precompiler, previous, nesting⟩ :: (parties thread).guards } :=
    Or.inl (List.cons_ne_nil _ _)
  refine orderly.update counts ⟨⟨savedStage, savedGuards⟩, trivial⟩ (fun _ => rfl)
    (fun down => absurd up down) (fun ends => ends.elim) fun other different ends => ?_
  -- whoever is about to restore the mode is alone, so this thread cannot have been reading
  have alone := (orderly.alone other ends thread different.symm).2
  rw [reading] at alone
  exact absurd trivial alone

theorem finish (orderly : Orderly own host parties) {guard : Guard} {rest : List Guard}
    (held : (parties thread).guards = guard :: rest)
    (counts : Counts host host.endCapture.2 thread { stage := .ended guard host.endCapture.1, guards := rest }) :
    Orderly own host.endCapture.2 (Function.update parties thread
      { stage := .ended guard host.endCapture.1, guards := rest }) := by
  have holds : (parties thread).levels ≠ 0 := by
    unfold Party.levels
    rw [held, List.length_cons]
    omega
  have raised : (parties thread).Raised := by
    refine Or.inl ?_
    rw [held]
    exact List.cons_ne_nil guard rest
  have saved := (orderly.saved thread).1
  rw [held] at saved
  have up : Party.Raised { stage := .ended guard host.endCapture.1, guards := rest } := Or.inr trivial
  refine orderly.update counts ⟨saved.2, saved.1⟩ ?_ (fun down => absurd up down) ?_ ?_
  · intro _
    rw [(Host.endCapture_mode host).1]
    exact orderly.raised thread raised
  · intro _ other different
    obtain ⟨none, level⟩ := orderly.others_empty holds different
    refine ⟨?_, fun reads => ?_⟩
    · rintro (some | ends)
      · exact some none
      · exact (orderly.alone other ends thread different.symm).1 raised
    · unfold Stage.IsReading at reads
      unfold Stage.level at level
      split at reads
      · rename_i stage
        rw [stage] at level
        cases level
      · exact reads
  · intro other different ends
    exact absurd raised (orderly.alone other ends thread different.symm).1

/-- A thread restores what it should have found: the forced mode if it holds
further guards, and the host's own mode if it does not. By the order, no other
thread is in a capture then. -/
theorem restore (orderly : Orderly own host parties) {guard : Guard} {ending : Ending}
    (ends : (parties thread).stage = .ended guard ending)
    (counts : Counts host (host.setMode guard.previous) thread
      { parties thread with stage := .restored guard ending }) :
    Orderly own (host.setMode guard.previous) (Function.update parties thread
      { parties thread with stage := .restored guard ending }) := by
  obtain ⟨savedGuards, savedStage⟩ := orderly.saved thread
  rw [ends] at savedStage
  have isEnded : (parties thread).stage.IsEnded := by
    rw [ends]
    trivial
  have alone := orderly.alone thread isEnded
  refine orderly.update counts ⟨savedGuards, trivial⟩ ?_ ?_ (fun ends => ends.elim) ?_
  · rintro ((some | none) | ⟨other, different, up⟩)
    · refine savedStage.trans ?_
      cases stack : (parties thread).guards with
      | nil => exact absurd stack some
      | cons latest rest => rfl
    · exact none.elim
    · exact absurd up (alone other different).1
  · intro down _
    have empty : (parties thread).guards = [] := by
      by_contra some
      exact down (Or.inl some)
    refine savedStage.trans ?_
    rw [empty]
    rfl
  · intro other different others
    exact absurd (Or.inr isEnded) (orderly.alone other others thread different.symm).1

theorem emit (orderly : Orderly own host parties) {guard : Guard} {ending : Ending}
    (restored : (parties thread).stage = .restored guard ending)
    (counts : Counts host host thread { parties thread with stage := .free }) :
    Orderly own host (Function.update parties thread { parties thread with stage := .free }) := by
  refine orderly.keep rfl counts ⟨(orderly.saved thread).1, trivial⟩ ?_ id id
  unfold Party.Raised
  rw [restored]
  rfl

/-- Every step keeps the order, if it reads no mode that another thread has
yet to restore. One case for each kind of step. With it, a whole history is a
matter of induction. -/
theorem turn (orderly : Orderly own host parties) {id : HostId} {next : Move}
    (turn : Turn id thread host (parties thread) next changed party)
    (serial : next = .read → (parties thread).stage.IsClaimed →
      ∀ other, other ≠ thread → ¬ (parties other).stage.IsEnded) :
    Orderly own changed (Function.update parties thread party) := by
  have counts := turn.counts (orderly.owned thread)
  cases turn with
  | idle => rwa [Function.update_eq_self]
  | begin free begun => exact orderly.claim free begun counts
  | read claimed => exact orderly.read claimed (serial rfl (by rw [claimed]; trivial)) counts
  | force reading => exact orderly.force reading counts
  | finish free held => exact orderly.finish held counts
  | restore ends => exact orderly.restore ends counts
  | emit restored => exact orderly.emit restored counts

end Orderly

theorem found_forced (guards : List Guard) : found .forced guards = .forced := by
  cases guards <;> rfl

/-- A host that is forced by itself stays so, since nobody finds another
mode. -/
theorem Turn.forced {id : HostId} {host changed : Host Form} {parties : ThreadId → Party} {thread : ThreadId}
    {party : Party} {next : Move} (turn : Turn id thread host (parties thread) next changed party)
    (mode : host.mode = .forced) (saved : ∀ other, (parties other).Saved .forced) :
    changed.mode = .forced ∧ ∀ other, (Function.update parties thread party other).Saved .forced := by
  rw [Function.forall_update_iff parties fun _ party => party.Saved .forced]
  obtain ⟨savedGuards, savedStage⟩ := saved thread
  refine and_assoc.mp ⟨?_, fun other _ => saved other⟩
  cases turn with
  | idle => exact ⟨mode, savedGuards, savedStage⟩
  | begin free begun => exact ⟨(Host.beginCapture?_mode begun).1.trans mode, savedGuards, trivial⟩
  | read claimed => exact ⟨mode, savedGuards, mode.trans (found_forced _).symm⟩
  | force reading =>
    rw [reading] at savedStage
    exact ⟨rfl, ⟨savedStage, savedGuards⟩, trivial⟩
  | finish free held =>
    rw [held] at savedGuards
    exact ⟨(Host.endCapture_mode host).1.trans mode, savedGuards.2, savedGuards.1⟩
  | restore ends =>
    rw [ends] at savedStage
    exact ⟨savedStage.trans (found_forced _), savedGuards, trivial⟩
  | emit restored => exact ⟨mode, savedGuards, trivial⟩

end System

end CallCapture
