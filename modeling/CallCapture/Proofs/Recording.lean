import CallCapture.Proofs.Levels
import Mathlib.Data.List.Induction

namespace CallCapture

namespace CaptureSet

/-- A recorder keeps the first of equal signatures: what an empty one has
after a list of them is the list without its repetitions. The order is that of
the first occurrences. -/
theorem signatures_recordAll (signatures : List Signature) :
    (empty.recordAll signatures).signatures = signatures.eraseDups := by
  induction signatures using List.reverseRecOn with
  | nil => rfl
  | append_singleton before last ih =>
    have added : (empty.recordAll (before ++ [last])).signatures =
        ((empty.recordAll before).record last).signatures := by
      rw [recordAll_append]
      rfl
    rw [added, signatures_record, contains, ih, eraseDups_append_singleton]
    simp only [List.contains_iff_mem, List.mem_eraseDups]

end CaptureSet

/-- The mode, the listener or the levels of a host are set by hand. What
captures do to their hosts is shown by other occurrences. -/
def Occurrence.disturbs (id : HostId) : Occurrence → Bool
  | monitorUsed host | hookInstalled host | hookRemoved host | modeSet host _ => host = id
  | _ => false

/-- The mode, the listener and the levels of a host are left to captures and
lockouts. It can be decided from the occurrences of a run. -/
def Undisturbed (id : HostId) (occurrences : List Occurrence) : Prop :=
  ∀ occurrence ∈ occurrences, occurrence.disturbs id = false

instance (id : HostId) (occurrences : List Occurrence) : Decidable (Undisturbed id occurrences) :=
  inferInstanceAs (Decidable (∀ occurrence ∈ occurrences, occurrence.disturbs id = false))

theorem undisturbed_append {id : HostId} {first rest : List Occurrence} :
    Undisturbed id (first ++ rest) ↔ Undisturbed id first ∧ Undisturbed id rest :=
  List.forall_mem_append

/-- Whatever is held by hand would put back the forced mode. So the mode stays
forced, whatever is let go. Guards and lockouts are asked alike, since each
remembers a mode. -/
def KeepsForced (id : HostId) (held : List Holding) : Prop :=
  ∀ holding ∈ held, holding.engine = id → holding.previous = .forced

/-- A host in forced mode with a recorder that hears every resolved call.
It stays one along a course that leaves its mode, its listener and its
levels to captures. -/
structure Host.Recording (host : Host Form) (armed : Armed) : Prop where
  claimed : host.armed = some armed
  listening : host.listener = some .recorder
  forced : host.mode = .forced

/-- A guard in the hand counts as a level just if its monitor is
one of this host. -/
theorem heldLevels_guard (id : HostId) (guard : Guard) (name : String) (held : List Holding) :
    heldLevels id (guard.holding name :: held) = heldLevels id held + guard.levelOn id := by
  unfold heldLevels Guard.levelOn
  rw [List.countP_cons]
  simp only [Guard.holding, Option.some.injEq, decide_eq_true_eq]

theorem heldLevels_lockout (id engine : HostId) (name : String) (previous : CompileMode) (held : List Holding) :
    heldLevels id (⟨name, none, engine, previous⟩ :: held) = heldLevels id held := by
  unfold heldLevels
  rw [List.countP_cons]
  rfl

theorem Quiet.heldAfter {world later : World} {occurrences : List Occurrence}
    (quiet : Quiet world occurrences later) (held : List Holding) : heldAfter held occurrences = some held :=
  heldAfter_of_not_handles quiet.handles

theorem Opens.heldAfter {guard : Guard} {world opened : World} {opening : List Occurrence}
    (opens : Opens guard world opening opened) (held : List Holding) : heldAfter held opening = some held :=
  heldAfter_of_not_handles opens.handles

theorem Closes.heldAfter {guard : Guard} {world later : World} {closing : List Occurrence}
    (closes : Closes guard world closing later) (held : List Holding) : heldAfter held closing = some held :=
  heldAfter_of_not_handles closes.handles

/-- A capture that is opened and closed around a stretch is never in the hand,
so the hand changes by what is inside. -/
theorem heldAfter_around {guard : Guard} {world opened closed later : World} {opening inside closing : List Occurrence}
    {held last : List Holding} (opens : Opens guard world opening opened) (closes : Closes guard closed closing later)
    (holds : heldAfter held (opening ++ inside ++ closing) = some last) : heldAfter held inside = some last := by
  obtain ⟨between, during, closed⟩ := heldAfter_append_eq_some.mp holds
  obtain ⟨start, opened, inside⟩ := heldAfter_append_eq_some.mp during
  rw [opens.heldAfter] at opened
  rw [closes.heldAfter] at closed
  cases opened
  cases closed
  exact inside

theorem Opens.heldAfter_kept {guard : Guard} {world opened : World} {opening : List Occurrence} {holding : Holding}
    {held last : List Holding} (opens : Opens guard world opening opened)
    (holds : CallCapture.heldAfter held (opening ++ [.held holding]) = some last) : last = holding :: held := by
  obtain ⟨between, opened, taken⟩ := heldAfter_append_eq_some.mp holds
  rw [opens.heldAfter] at opened
  cases opened
  cases taken
  rfl

theorem Closes.heldAfter_givenUp {guard : Guard} {world later : World} {closing : List Occurrence} {holding : Holding}
    {held last : List Holding} (closes : Closes guard world closing later)
    (holds : CallCapture.heldAfter held ([.letGo holding] ++ closing) = some last) : held = holding :: last := by
  rw [List.singleton_append] at holds
  obtain ⟨earlier, rfl, behind⟩ := heldAfter_letGo_eq_some.mp holds
  rw [closes.heldAfter] at behind
  cases behind
  rfl

theorem heldAfter_method {id : HostId} {inside : List Occurrence} {held last : List Holding}
    (holds : heldAfter held ([.entered id] ++ inside ++ [.left id]) = some last) :
    heldAfter held inside = some last := by
  obtain ⟨between, during, left⟩ := heldAfter_append_eq_some.mp holds
  cases left
  exact during

/-- Only a lockout is taken into the hand by a move, or let go. It remembers
the mode that it has found. -/
theorem HostMove.held {other : HostId} {host changed : Host Form} {occurrences : List Occurrence}
    {held last : List Holding} (move : HostMove other host occurrences changed)
    (holds : heldAfter held occurrences = some last) :
    last = held ∨ (∃ name, last = ⟨name, none, other, host.mode⟩ :: held) ∨
      ∃ name previous, held = ⟨name, none, other, previous⟩ :: last := by
  cases move with
  | @lockHeld name =>
    cases holds
    exact Or.inr (Or.inl ⟨name, rfl⟩)
  | @lockLetGo name previous =>
    obtain ⟨earlier, rfl, behind⟩ := heldAfter_letGo_eq_some.mp holds
    cases behind
    exact Or.inr (Or.inr ⟨name, previous, rfl⟩)
  | @recorded signature =>
    by_cases reports : host.reports signature = true
    · rw [if_pos reports] at holds
      cases holds
      exact Or.inl rfl
    · rw [if_neg reports] at holds
      cases holds
      exact Or.inl rfl
  | @begunByHand _ _ _ nesting =>
    cases nesting <;> cases holds <;> exact Or.inl rfl
  | endedByHand =>
    generalize host.endCapture.1 = ending at holds
    cases ending <;> cases holds <;> exact Or.inl rfl
  | _ =>
    cases holds
    exact Or.inl rfl

/-- A lockout holds no level, so a move leaves as many levels in the
hand as there were. -/
theorem HostMove.heldLevels {id other : HostId} {host changed : Host Form} {occurrences : List Occurrence}
    {held last : List Holding} (move : HostMove other host occurrences changed)
    (holds : heldAfter held occurrences = some last) : heldLevels id last = heldLevels id held := by
  rcases move.held holds with rfl | ⟨name, rfl⟩ | ⟨name, previous, rfl⟩
  · rfl
  · exact heldLevels_lockout ..
  · exact (heldLevels_lockout ..).symm

theorem invokedOn_eq_nil {id : HostId} {occurrences : List Occurrence}
    (other : ∀ occurrence ∈ occurrences, ∀ mode signature, occurrence ≠ .invoked id mode signature) :
    invokedOn id occurrences = [] := by
  unfold invokedOn
  rw [List.filterMap_eq_nil_iff]
  intro occurrence member
  cases occurrence with
  | invoked host mode signature =>
    refine if_neg fun same => ?_
    subst same
    exact other _ member mode signature rfl
  | _ => rfl

/-- No call of a sink counts for a host if every one that occurs belongs to
another host or to none. -/
theorem handOversOf_eq_nil {id : HostId} {occurrences : List Occurrence}
    (other : ∀ occurrence ∈ occurrences, ∀ sink artifact signatures,
      occurrence ≠ .handedOver (some id) sink artifact signatures) : handOversOf id occurrences = [] := by
  unfold handOversOf handOvers
  rw [List.filter_eq_nil_iff]
  intro call member
  obtain ⟨occurrence, happened, found⟩ := List.mem_filterMap.mp member
  cases occurrence with
  | handedOver source sink artifact signatures =>
    cases found
    simp only [decide_eq_true_eq]
    rintro rfl
    exact other _ happened sink artifact signatures rfl
  | _ => cases found

theorem Quiet.silent {world later : World} {occurrences : List Occurrence} (id : HostId)
    (quiet : Quiet world occurrences later) :
    invokedOn id occurrences = [] ∧ handOversOf id occurrences = [] := by
  constructor
  · refine invokedOn_eq_nil ?_
    rintro _ member mode signature rfl
    cases quiet.quiet _ member
  · refine handOversOf_eq_nil ?_
    rintro _ member sink artifact signatures rfl
    cases quiet.quiet _ member

theorem Opens.silent {guard : Guard} {world opened : World} {opening : List Occurrence} (id : HostId)
    (opens : Opens guard world opening opened) : invokedOn id opening = [] ∧ handOversOf id opening = [] := by
  cases opens with
  | intro =>
    unfold Nesting.occurrence
    split <;> exact ⟨rfl, rfl⟩

theorem Closes.uncalled {guard : Guard} {world later : World} {closing : List Occurrence} (id : HostId)
    (closes : Closes guard world closing later) : invokedOn id closing = [] := by
  refine invokedOn_eq_nil ?_
  rintro _ member mode signature rfl
  cases closes.isClosing _ member

theorem Closes.keeps {guard : Guard} {world later : World} {closing : List Occurrence} {id : HostId} {armed : Armed}
    {level : Nat} (closes : Closes guard world closing later)
    (claimed : (world.hosts.get id).armed = some armed) (deep : armed.depth = level + guard.levelOn id) :
    handOversOf id closing = [] := by
  cases closes with
  | @intro _ _ _ emission ends unlock rest =>
    rw [handOversOf_append]
    have ended : handOversOf id
        [(world.hosts.get guard.precompiler.monitor).endCapture.1.occurrence guard.precompiler.monitor,
          .released guard.precompiler.engine guard.previous] = [] := by
      unfold Ending.occurrence
      split <;> rfl
    rw [ended, List.nil_append]
    by_cases monitor : guard.precompiler.monitor = id
    · subst monitor
      have own : guard.levelOn guard.precompiler.monitor = 1 := if_pos rfl
      rw [own] at deep
      rw [Host.endCapture_nested claimed deep] at rest
      rw [rest.1]
      rfl
    · split at rest
      · obtain ⟨remarks, rfl, said⟩ := rest
        rw [handOversOf_append, (said.quiet.silent id).2, List.append_nil]
        refine handOversOf_eq_nil ?_
        rintro _ member sink artifact signatures rfl
        rcases List.mem_cons.mp member with same | member
        · cases same
        · have same := List.mem_singleton.mp member
          unfold Guard.handedOver at same
          cases same
          exact monitor rfl
      · rw [rest.1]
        rfl

/-- What a move takes into the hand would put back the forced mode as well, if
the host is in forced mode when it does. -/
theorem HostMove.keepsForced {id other : HostId} {host changed : Host Form} {occurrences : List Occurrence}
    {held last : List Holding} (move : HostMove other host occurrences changed)
    (forced : other = id → host.mode = .forced) (kept : KeepsForced id held)
    (holds : heldAfter held occurrences = some last) : KeepsForced id last := by
  rcases move.held holds with rfl | ⟨name, rfl⟩ | ⟨name, previous, rfl⟩
  · exact kept
  · intro holding member
    rcases List.mem_cons.mp member with rfl | old
    · exact forced
    · exact kept holding old
  · exact fun holding member => kept holding (List.mem_cons_of_mem _ member)

theorem HostMove.keeps {other : HostId} {host changed : Host Form} {occurrences : List Occurrence} (id : HostId)
    (move : HostMove other host occurrences changed) : handOversOf id occurrences = [] := by
  refine handOversOf_eq_nil ?_
  rintro _ member sink artifact signatures rfl
  cases move.isMoveOf _ member

theorem HostMove.uncalled {id other : HostId} {host changed : Host Form} {occurrences : List Occurrence}
    (move : HostMove other host occurrences changed) (different : other ≠ id) : invokedOn id occurrences = [] := by
  refine invokedOn_eq_nil ?_
  rintro _ member mode signature rfl
  exact different (of_decide_eq_true (move.isMoveOf _ member)).symm

/-- The recorder hears every call that is resolved on its host. No move but
one by hand ends the recording, as a lockout that is let go puts back the
forced mode. Of the calls on this host none goes unheard, because its code is
compiled as long as the mode is forced. -/
theorem HostMove.recording {id : HostId} {host changed : Host Form} {occurrences : List Occurrence} {armed : Armed}
    {held last : List Holding} (move : HostMove id host occurrences changed) (calm : Undisturbed id occurrences)
    (recording : host.Recording armed) (kept : KeepsForced id held)
    (holds : heldAfter held occurrences = some last) :
    changed.Recording { armed with recorded := armed.recorded.recordAll (invokedOn id occurrences) } := by
  obtain ⟨claimed, listening, forced⟩ := recording
  cases move with
  | unheard unheard =>
    have compiled : host.isCompiled = true := by
      unfold Host.isCompiled
      rw [forced]
      rfl
    rw [compiled, listening] at unheard
    simp at unheard
  | collected _ heard =>
    rw [listening] at heard
    cases heard
  | @recorded signature =>
    have called : invokedOn id ([.invoked id host.mode signature, .delivered id signature] ++
        if host.reports signature then [.captured id signature] else []) = [signature] := by
      split <;> simp [invokedOn]
    rw [called]
    refine ⟨?_, listening, forced⟩
    unfold Host.hear
    rw [claimed]
    rfl
  | registered => exact ⟨claimed, listening, forced⟩
  | switched => simp [Undisturbed, Occurrence.disturbs] at calm
  | hooked => simp [Undisturbed, Occurrence.disturbs] at calm
  | unhooked => simp [Undisturbed, Occurrence.disturbs] at calm
  | begunByHand => simp [Undisturbed, Occurrence.disturbs] at calm
  | refusedByHand => simp [Undisturbed, Occurrence.disturbs] at calm
  | endedByHand => simp [Undisturbed, Occurrence.disturbs] at calm
  | lockHeld => exact ⟨claimed, listening, rfl⟩
  | lockLetGo =>
    obtain ⟨earlier, rfl, _⟩ := heldAfter_letGo_eq_some.mp holds
    exact ⟨claimed, listening, kept _ (List.mem_cons_self ..) rfl⟩

/-- A capture that opens within a recording has found the forced mode, so it
will put the forced mode back. -/
theorem Opens.keepsForced {guard : Guard} {world opened : World} {opening : List Occurrence} {id : HostId}
    {armed : Armed} (opens : Opens guard world opening opened) (recording : (world.hosts.get id).Recording armed)
    (engine : guard.precompiler.engine = id) : guard.previous = .forced := by
  rw [opens.previous, engine]
  exact recording.forced

/-- A capture that opens within a recording is nested in it: the set goes on,
with one level more if it is a capture of this host. -/
theorem Opens.recording {guard : Guard} {world opened : World} {opening : List Occurrence} {id : HostId}
    {armed : Armed} (opens : Opens guard world opening opened) (recording : (world.hosts.get id).Recording armed) :
    (opened.hosts.get id).Recording { armed with depth := armed.depth + guard.levelOn id } := by
  rw [opens.get_armed recording.claimed]
  refine ⟨rfl, recording.listening, ?_⟩
  dsimp only
  split
  · rfl
  · exact recording.forced

/-- A capture that closes within a recording leaves it going, as it puts back
the forced mode and is not the last level. If it were the last level, the
recorder would go with it. -/
theorem Closes.recording {guard : Guard} {world later : World} {closing : List Occurrence} {id : HostId}
    {armed : Armed} {level : Nat} (closes : Closes guard world closing later)
    (recording : (world.hosts.get id).Recording armed) (deep : armed.depth = level + guard.levelOn id)
    (kept : guard.precompiler.engine = id → guard.previous = .forced) :
    (later.hosts.get id).Recording { armed with depth := level } := by
  rw [closes.get_nested recording.claimed deep]
  refine ⟨rfl, recording.listening, ?_⟩
  dsimp only
  split
  · rename_i engine
    exact kept engine
  · exact recording.forced

/-- What is true behind a stretch of a session for a host that is recorded
throughout: it still is, the recorder has heard all calls, and no capture of
the host has handed anything over. The levels are those around the stretch and
those that are in the hand. -/
structure Recorded (id : HostId) (armed : Armed) (around : Nat) (occurrences : List Occurrence) (last : List Holding)
    (later : World) : Prop where
  recording : (later.hosts.get id).Recording { armed with
    depth := around + heldLevels id last
    recorded := armed.recorded.recordAll (invokedOn id occurrences) }
  kept : KeepsForced id last
  keeps : handOversOf id occurrences = []

theorem Host.Recording.cast {host other : Host Form} {armed : Armed} (recording : host.Recording armed)
    (claimed : other.armed = host.armed) (listening : other.listener = host.listener)
    (forced : other.mode = host.mode) : other.Recording armed :=
  ⟨claimed.trans recording.claimed, listening.trans recording.listening, forced.trans recording.forced⟩

/-- A host that is recorded when a stretch begins is recorded throughout,
provided that nothing of it is set by hand and everything that is held by hand
is let go in order. By induction on the course, with the levels around it as
the number that grows inside a capture. -/
theorem Course.recorded {world later : World} {occurrences : List Occurrence} {id : HostId}
    (course : Course world occurrences later) (made : world.Made id) (calm : Undisturbed id occurrences)
    {held last : List Holding} (holds : heldAfter held occurrences = some last) (kept : KeepsForced id held)
    {around : Nat} {armed : Armed} (recording : (world.hosts.get id).Recording armed)
    (level : armed.depth = around + heldLevels id held) : Recorded id armed around occurrences last later := by
  induction course generalizing held last around armed with
  | quiet quiet =>
    rw [quiet.heldAfter] at holds
    cases holds
    obtain ⟨uncalled, keeps⟩ := quiet.silent id
    refine ⟨?_, kept, keeps⟩
    rw [quiet.hosts id made, uncalled, ← level]
    exact recording
  | next before _ first rest =>
    rw [undisturbed_append] at calm
    obtain ⟨between, holdsFirst, holdsRest⟩ := heldAfter_append_eq_some.mp holds
    have middle := first made calm.1 holdsFirst kept recording level
    have ended := rest (before.made made) calm.2 holdsRest middle.kept middle.recording rfl
    refine ⟨?_, ended.kept, ?_⟩
    · rw [invokedOn_append, CaptureSet.recordAll_append]
      exact ended.recording
    · rw [handOversOf_append, middle.keeps, ended.keeps]
      rfl
  | @move _ other _ _ _ move moved =>
    have levels : heldLevels id last = heldLevels id held := move.heldLevels holds
    by_cases same : id = other
    · subst same
      refine ⟨?_, move.keepsForced (fun _ => recording.forced) kept holds, move.keeps id⟩
      rw [moved.get_self, levels, ← level]
      exact move.recording calm recording kept holds
    · have different : other ≠ id := Ne.symm same
      refine ⟨?_, move.keepsForced (fun equal => absurd equal different) kept holds, move.keeps id⟩
      rw [moved.get_of_ne same, move.uncalled different, levels, ← level]
      exact recording
  | @method _ other _ during _ _ enters _ leaves inside =>
    rw [undisturbed_append, undisturbed_append] at calm
    have entered := recording.cast (enters.same Host.armed rfl id) (enters.same Host.listener rfl id)
      (enters.same Host.mode rfl id)
    have ended := inside (Nat.lt_of_lt_of_eq made enters.fresh.symm) calm.1.2 (heldAfter_method holds) kept entered
      level
    have called : invokedOn id ([.entered other] ++ during ++ [.left other]) = invokedOn id during := by
      rw [invokedOn_append, invokedOn_append]
      exact List.append_nil _
    refine ⟨?_, ended.kept, ?_⟩
    · rw [called]
      exact ended.recording.cast (leaves.same Host.armed rfl id) (leaves.same Host.listener rfl id)
        (leaves.same Host.mode rfl id)
    · rw [handOversOf_append, handOversOf_append, ended.keeps]
      rfl
  | @captured world guard _ opened during closed _ _ opens _ closes inside =>
    rw [undisturbed_append, undisturbed_append] at calm
    have deeper : armed.depth + guard.levelOn id = around + guard.levelOn id + heldLevels id held := by omega
    have ended := inside (Nat.lt_of_lt_of_eq made opens.fresh.symm) calm.1.2 (heldAfter_around opens closes holds) kept
      (opens.recording recording) deeper
    have deep : around + guard.levelOn id + heldLevels id last =
        around + heldLevels id last + guard.levelOn id := by omega
    refine ⟨?_, ended.kept, ?_⟩
    · rw [invokedOn_append, invokedOn_append, (opens.silent id).1, closes.uncalled, List.nil_append,
        List.append_nil]
      exact closes.recording ended.recording deep (opens.keepsForced recording)
    · rw [handOversOf_append, handOversOf_append, (opens.silent id).2, ended.keeps,
        closes.keeps ended.recording.claimed deep]
      rfl
  | @kept _ guard name opening _ opens =>
    have taken := opens.heldAfter_kept holds
    subst taken
    refine ⟨?_, ?_, ?_⟩
    · rw [heldLevels_guard, ← Nat.add_assoc, ← level, invokedOn_append, (opens.silent id).1]
      exact opens.recording recording
    · intro holding member
      rcases List.mem_cons.mp member with rfl | old
      · exact opens.keepsForced recording
      · exact kept holding old
    · rw [handOversOf_append, (opens.silent id).2]
      rfl
  | @givenUp _ guard name closing _ closes =>
    have latest := closes.heldAfter_givenUp holds
    subst latest
    rw [heldLevels_guard, ← Nat.add_assoc] at level
    refine ⟨?_, fun holding member => kept holding (List.mem_cons_of_mem _ member), ?_⟩
    · rw [invokedOn_append, closes.uncalled]
      exact closes.recording recording level (kept _ (List.mem_cons_self ..))
    · rw [handOversOf_append, closes.keeps recording.claimed level]
      rfl

end CallCapture
