import CallCapture.Proofs.Levels
import CallCapture.Proofs.Commands

namespace CallCapture

/-- A call is resolved or brought to a listener, or its body is entered or
left. These are the occurrences by which it is judged who hears of what. -/
def Occurrence.isCall : Occurrence → Bool
  | invoked .. | delivered .. | captured .. | entered _ | left _ => true
  | _ => false

/-- What is done beside calls: no body is entered or left, and nobody hears
anything. A recorder that is there behind it has been there before, or it is a
new one. All commands are of this kind, and so are the opening and the closing
of a capture; what is left is calls. -/
structure Aside (world : World) (occurrences : List Occurrence) (later : World) : Prop where
  trace : later.trace = occurrences.reverse ++ world.trace
  uncalled : ∀ occurrence ∈ occurrences, occurrence.isCall = false
  depth : ∀ id, world.Made id → (later.hosts.get id).depth = (world.hosts.get id).depth
  added : ∀ id, ¬ world.Made id →
    (later.hosts.get id).depth = (world.hosts.get id).depth ∨ (later.hosts.get id).depth = 0
  collectors : later.collectors = world.collectors
  recorded : ∀ id armed, (later.hosts.get id).armed = some armed → armed.recorded = .empty ∨
    ∃ before, (world.hosts.get id).armed = some before ∧ armed.recorded = before.recorded
  fresh : world.fresh ≤ later.fresh
  names : world.NamesMade → later.NamesMade

namespace Aside

variable {world middle later : World} {first rest occurrences : List Occurrence}

/-- What is done aside twice in a row is done aside. A recorder that was new
in the middle has still heard nothing. -/
theorem trans (before : Aside world first middle) (behind : Aside middle rest later) :
    Aside world (first ++ rest) later where
  trace := by rw [behind.trace, before.trace, List.reverse_append, List.append_assoc]
  uncalled := List.forall_mem_append.mpr ⟨before.uncalled, behind.uncalled⟩
  depth id made := (behind.depth id (Nat.lt_of_lt_of_le made before.fresh)).trans (before.depth id made)
  added id unmade := by
    by_cases made : middle.Made id
    · rw [behind.depth id made]
      exact before.added id unmade
    · rcases behind.added id made with same | new
      · rw [same]
        exact before.added id unmade
      · exact Or.inr new
  collectors := behind.collectors.trans before.collectors
  recorded id armed claimed := by
    rcases behind.recorded id armed claimed with new | ⟨old, already, same⟩
    · exact Or.inl new
    · rw [same]
      exact before.recorded id old already
  fresh := Nat.le_trans before.fresh behind.fresh
  names made := behind.names (before.names made)

end Aside

/-- A quiet step keeps aside: what it does concerns no host, so no call and no
level of a capture is among what happens in it. -/
theorem Quiet.aside {world later : World} {occurrences : List Occurrence} (quiet : Quiet world occurrences later) :
    Aside world occurrences later where
  trace := quiet.trace
  uncalled occurrence member := by
    have concerned := quiet.quiet occurrence member
    cases occurrence <;> first | rfl | cases concerned
  depth id made := by rw [quiet.hosts id made]
  added id unmade := by
    rcases quiet.added id unmade with same | new
    · exact Or.inl (by rw [same])
    · exact Or.inr (by rw [new])
  collectors := quiet.collectors
  recorded id armed claimed := by
    by_cases made : world.Made id
    · rw [quiet.hosts id made] at claimed
      exact Or.inr ⟨armed, claimed, rfl⟩
    · rcases quiet.added id made with same | new
      · rw [same] at claimed
        exact Or.inr ⟨armed, claimed, rfl⟩
      · rw [new] at claimed
        cases claimed
  fresh := quiet.fresh
  names := quiet.names

theorem Aside.composes : Composes Aside := ⟨fun world => (Quiet.refl world).aside, Aside.trans⟩

/-- A host neither has another depth nor a recorder that has heard more. -/
structure Host.Unheard (host changed : Host Form) : Prop where
  depth : changed.depth = host.depth
  recorded : ∀ armed, changed.armed = some armed → armed.recorded = .empty ∨
    ∃ before, host.armed = some before ∧ armed.recorded = before.recorded

namespace Host

variable {host changed : Host Form}

theorem Unheard.of_armed (depth : changed.depth = host.depth) (armed : changed.armed = host.armed) :
    host.Unheard changed :=
  ⟨depth, fun other claimed => Or.inr ⟨other, armed.symm.trans claimed, rfl⟩⟩

/-- A capture that begins has heard nothing: either it starts with an empty
set, or it goes on with the set that is there. This is why a capture that
begins within another one adds nothing to what the outer one has heard. -/
theorem beginCapture?_unheard {thread : ThreadId} {verbose : Bool} {nesting : Nesting}
    (begun : host.beginCapture? thread verbose = some (nesting, changed)) : host.Unheard changed := by
  refine ⟨(beginCapture?_mode begun).2, fun armed claimed => ?_⟩
  cases already : host.armed with
  | none =>
    obtain ⟨_, rfl⟩ := beginCapture?_unarmed already begun
    cases claimed
    exact Or.inl rfl
  | some before =>
    obtain ⟨_, rfl⟩ := beginCapture?_armed already begun
    cases claimed
    exact Or.inr ⟨before, rfl, rfl⟩

/-- What was recorded before the end of a level is recorded behind it,
if a level is left. By cases on the depth of the capture that is
armed, if one is. -/
theorem endCapture_unheard (host : Host Form) : host.Unheard host.endCapture.2 := by
  refine ⟨(endCapture_mode host).2, fun armed claimed => ?_⟩
  cases already : host.armed with
  | none =>
    unfold endCapture at claimed
    rw [already] at claimed
    cases already.symm.trans claimed
  | some before =>
    cases depth : before.depth with
    | zero =>
      rw [endCapture_last already depth] at claimed
      cases claimed
    | succ below =>
      rw [endCapture_nested already depth] at claimed
      cases claimed
      exact Or.inr ⟨before, rfl, rfl⟩

end Host

/-- A move of a host that has heard nothing more is done aside, if it shows no
call. It is enough to look at the one host that has moved. -/
theorem Moved.aside {world later : World} {id : HostId} {changed : Host Form} {occurrences : List Occurrence}
    (moved : Moved world id changed occurrences later) (collectors : later.collectors = world.collectors)
    (uncalled : ∀ occurrence ∈ occurrences, occurrence.isCall = false)
    (unheard : (world.hosts.get id).Unheard changed) : Aside world occurrences later where
  trace := moved.trace
  uncalled := uncalled
  depth other _ := moved.same Host.depth unheard.depth other
  added other _ := Or.inl (moved.same Host.depth unheard.depth other)
  collectors := collectors
  recorded other armed claimed := by
    by_cases same : other = id
    · subst same
      rw [moved.get_self] at claimed
      exact unheard.recorded armed claimed
    · rw [moved.get_of_ne same] at claimed
      exact Or.inr ⟨armed, claimed, rfl⟩
  fresh := Nat.le_of_eq moved.fresh.symm
  names made := made.of_eq moved.names moved.fresh

namespace Act

variable {α β : Type}

/-- The action makes no call and brings nothing to a listener. Such an action
may come between any two calls without anybody hearing of it. -/
abbrev Silent (action : Act α) : Prop := Follows Aside action

theorem Still.silent {action : Act α} (still : Still action) : Silent action := still.mono Quiet.aside

theorem Remarking.silent {action : Act α} (remarking : Remarking action) : Silent action := remarking.still.silent

theorem Silent.bind {action : Act α} {next : α → Act β} (first : Silent action) (rest : ∀ value, Silent (next value)) :
    Silent (action >>= next) :=
  Follows.bind Aside.composes first rest

theorem silent_pure (value : α) : Silent (pure value : Act α) := follows_pure Aside.composes value

theorem silent_throw (halt : Halt) : Silent (throw halt : Act α) := follows_throw Aside.composes halt

theorem silent_note {occurrence : Occurrence} (uncalled : occurrence.isCall = false) : Silent (note occurrence) :=
  fun world => ⟨[occurrence], rfl, by simpa using uncalled, fun _ _ => rfl, fun _ _ => Or.inl rfl, rfl,
    fun _ armed claimed => Or.inr ⟨armed, claimed, rfl⟩, Nat.le_refl _, fun made => made.of_eq rfl rfl⟩

/-- Beginning a level resolves no call. A refusal leaves the world alone, and
what begins otherwise is a capture without a call in it. -/
theorem silent_beginLevel (id : HostId) (unit : String) (verbose : Bool) (thread : ThreadId) :
    Silent (beginLevel id unit verbose thread) := by
  intro world
  cases begun : (world.hosts.get id).beginCapture? thread verbose with
  | none =>
    obtain ⟨_, left⟩ := beginLevel_refused unit begun
    rw [left]
    exact silent_note rfl world
  | some claimed =>
    obtain ⟨nesting, changed⟩ := claimed
    obtain ⟨_, moved⟩ := beginLevel_begun unit begun
    have collectors : ((beginLevel id unit verbose thread).after world).collectors = world.collectors := by
      unfold beginLevel
      rw [after_host_bind, begun]
      cases nesting <;> rfl
    refine ⟨_, moved.aside collectors ?_ (Host.beginCapture?_unheard begun)⟩
    intro occurrence member
    rw [List.mem_singleton.mp member]
    cases nesting <;> rfl

theorem silent_endLevel (id : HostId) : Silent (endLevel id) := by
  intro world
  obtain ⟨_, moved⟩ := endLevel_ended id world
  have collectors : ((endLevel id).after world).collectors = world.collectors := by
    unfold endLevel
    rw [after_host_bind]
    rcases (world.hosts.get id).endCapture with ⟨ending, changed⟩
    cases ending <;> rfl
  refine ⟨_, moved.aside collectors ?_ (Host.endCapture_unheard _)⟩
  intro occurrence member
  rw [List.mem_singleton.mp member]
  cases (world.hosts.get id).endCapture.1 <;> rfl

theorem silent_lock (id : HostId) : Silent (lock id) :=
  fun world => ⟨_, (lock_locked id world).2.aside rfl (by simp [Occurrence.isCall]) (.of_armed rfl rfl)⟩

theorem silent_unlock (id : HostId) (previous : CompileMode) : Silent (unlock id previous) :=
  fun world => ⟨_, (unlock_released id previous world).2.aside rfl (by simp [Occurrence.isCall]) (.of_armed rfl rfl)⟩

theorem silent_handOver (source : Option HostId) (id : SinkId) (emission : Emission) :
    Silent (handOver source id emission) := by
  intro world
  obtain ⟨remarks, said⟩ := handOver_remarks source id emission world
  obtain ⟨called, noted⟩ := @silent_note (.handedOver source id emission.artifact emission.signatures) rfl world
  exact ⟨_, noted.trans said.quiet.aside⟩

end Act

open Act

/-- A capture opens without any call, behind whatever its gate asks for. The
oracle may be asked and a refusal may be told, neither of which is a call. -/
theorem Precompiler.silent_beginCapture (precompiler : Precompiler) (thread : ThreadId) :
    Silent (precompiler.beginCapture thread) := by
  refine precompiler.remarking_gate.silent.bind fun answer => ?_
  cases answer with
  | none => exact silent_pure _
  | some flags =>
    exact (silent_beginLevel _ _ _ _).bind fun nesting => (silent_lock _).bind fun previous => silent_pure _

namespace Guard

theorem silent_disarm (guard : Guard) : Silent guard.disarm := by
  refine (silent_endLevel _).bind fun ending => (silent_unlock _ _).bind fun _ => ?_
  split
  · exact Silent.bind ((silent_note rfl).bind fun _ => silent_handOver _ _ _) fun _ =>
      (silent_note rfl).bind fun _ => silent_pure _
  · exact silent_pure _

theorem silent_drop (guard : Guard) : Silent guard.drop := by
  refine Silent.bind (Follows.attempt guard.silent_disarm) fun result => ?_
  split
  · exact silent_note rfl
  · exact silent_throw _
  · exact silent_pure _

end Guard

namespace Context

/-- The end of a workload resolves no call, whether the workload came to a
value or the guard is let go with an error. -/
theorem silent_finishWorkload (guard : Guard) (outcome : Except Halt Value) :
    Silent (finishWorkload guard outcome) := by
  unfold finishWorkload
  split
  · refine Silent.bind (fun world => ?_) fun _ => silent_pure _
    rw [after_discard]
    exact guard.silent_disarm world
  · refine Silent.bind (Follows.attempt guard.silent_disarm) fun result => ?_
    dsimp only
    split
    · exact (silent_note rfl).bind fun _ => silent_throw _
    · exact (silent_note rfl).bind fun _ => silent_throw _
    · exact silent_throw _
  · exact guard.silent_drop.bind fun _ => silent_throw _

end Context

namespace Act

theorem silent_release (name : String) (lockout : Lockout) : Silent (release name lockout) :=
  (silent_note rfl).bind fun _ => silent_unlock _ _

theorem silent_rename_bind {change : Names → Names} {next : Unit → Act β}
    (hosts : ∀ names, (change names).hosts = names.hosts)
    (monitors : ∀ names, (change names).monitors = names.monitors)
    (precompilers : ∀ names, (change names).precompilers = names.precompilers) (rest : Silent (next ())) :
    Silent (rename change >>= next) :=
  (still_rename hosts monitors precompilers).silent.bind fun _ => rest

theorem silent_lockNamed (name host : String) : Silent (lockNamed name host) := by
  refine (remarking_named _ _).silent.bind fun engine => (silent_lock engine).bind fun previous => ?_
  refine (silent_note rfl).bind fun _ => remarking_get.silent.bind fun world => ?_
  refine silent_rename_bind (fun _ => rfl) (fun _ => rfl) (fun _ => rfl) ?_
  dsimp only
  split
  · exact silent_pure _
  · exact (silent_release name _).bind fun _ => silent_pure _

theorem silent_unlockNamed (name : String) : Silent (unlockNamed name) := by
  refine remarking_get.silent.bind fun world => ?_
  split
  · exact silent_pure _
  · refine silent_rename_bind (fun _ => rfl) (fun _ => rfl) (fun _ => rfl) ?_
    exact (silent_release name _).bind fun _ => silent_pure _

theorem silent_dropNamed (name : String) (guard : Guard) : Silent (dropNamed name guard) :=
  (silent_note rfl).bind fun _ => guard.silent_drop

/-- Beginning a capture under a name resolves no call: the guard that had the
name is let go, and the sink calls nothing. -/
theorem silent_beginNamed (thread : ThreadId) (name guardName : String) :
    Silent (beginNamed thread name guardName) := by
  refine (remarking_named _ _).silent.bind fun precompiler => ?_
  refine (precompiler.silent_beginCapture thread).bind fun opened => ?_
  cases opened with
  | none => exact silent_pure _
  | some guard =>
    refine (silent_note rfl).bind fun _ => (still_takeGuard guardName).silent.bind fun replaced => ?_
    refine silent_rename_bind (fun _ => rfl) (fun _ => rfl) (fun _ => rfl) ?_
    dsimp only
    split
    · split <;> exact silent_pure _
    · refine (silent_dropNamed guardName _).bind fun _ => ?_
      split <;> exact silent_pure _

end Act

/-- No command makes a call. So a listener hears of nothing but what the calls
of forms bring to it. The proof goes through the commands that touch hosts,
since all others leave every host alone. -/
theorem Command.silent (command : Command) (here : HostId) (thread : ThreadId) : Silent (command.run here thread) := by
  cases leaves : command.leavesHosts with
  | true => exact (still leaves here thread).silent
  | false =>
    unfold Command.run
    cases command with
    | setMode mode =>
      intro world
      have moved := Moved.put world here ((world.hosts.get here).setMode mode) [.modeSet here mode]
      exact ⟨_, moved.aside rfl (by simp [Occurrence.isCall]) (.of_armed rfl rfl)⟩
    | hook name =>
      refine still_number.silent.bind fun number => ?_
      refine silent_rename_bind (fun _ => rfl) (fun _ => rfl) (fun _ => rfl) ?_
      intro world
      have moved := Moved.put world here { world.hosts.get here with listener := some (.collector ⟨number⟩) }
        [.hookInstalled here]
      exact ⟨_, moved.aside rfl (by simp [Occurrence.isCall]) (.of_armed rfl rfl)⟩
    | unhook =>
      intro world
      have moved := Moved.put world here { world.hosts.get here with listener := none } [.hookRemoved here]
      exact ⟨_, moved.aside rfl (by simp [Occurrence.isCall]) (.of_armed rfl rfl)⟩
    | beginLevel monitor unit verbose =>
      refine (remarking_named _ _).silent.bind fun id => (silent_note rfl).bind fun _ => ?_
      refine (silent_beginLevel _ _ _ _).bind fun nesting => ?_
      split <;> exact silent_pure _
    | endLevel monitor =>
      refine (remarking_named _ _).silent.bind fun id => (silent_note rfl).bind fun _ => ?_
      refine (silent_endLevel id).bind fun ending => ?_
      split <;> exact silent_pure _
    | lock name host => exact silent_lockNamed name host
    | unlock name => exact silent_unlockNamed name
    | beginCapture precompiler guard => exact silent_beginNamed thread precompiler guard
    | finish guard =>
      refine (still_takeGuard guard).silent.bind fun found => ?_
      cases found with
      | none => exact silent_pure _
      | some found =>
        exact Silent.bind ((silent_note rfl).bind fun _ => found.silent_disarm) fun _ => silent_pure _
    | drop guard =>
      refine (still_takeGuard guard).silent.bind fun found => ?_
      cases found with
      | none => exact silent_pure _
      | some found => exact (silent_dropNamed guard found).bind fun _ => silent_pure _
    | _ => cases leaves

end CallCapture
