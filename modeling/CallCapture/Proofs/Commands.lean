import CallCapture.Proofs.Captures
import CallCapture.Session.Command

namespace CallCapture

namespace Act

variable {α β : Type}

theorem still_rename_bind {change : Names → Names} {next : Unit → Act β}
    (hosts : ∀ names, (change names).hosts = names.hosts)
    (monitors : ∀ names, (change names).monitors = names.monitors)
    (precompilers : ∀ names, (change names).precompilers = names.precompilers) (rest : Still (next ())) :
    Still (rename change >>= next) :=
  (still_rename hosts monitors precompilers).bind fun _ => rest

/-- To look a name up changes nothing, also where it stands for nothing. So a
command that names something unknown fails before it has done anything. -/
theorem run_named (find : Names → List (String × α)) (name : String) (world : World) :
    (named find name).run world =
      (((find world.names).lookup name).elim (Except.error (Halt.unbound name)) .ok, world) := by
  unfold named
  rw [run_get_bind]
  cases (find world.names).lookup name <;> rfl

theorem run_precompilerNamed_bind {name : String} {precompiler : Precompiler} {world : World}
    (known : world.names.precompilers.lookup name = some precompiler) (next : Precompiler → Act α) :
    (precompilerNamed name >>= next).run world = (next precompiler).run world := by
  unfold precompilerNamed
  rw [run_bind, run_named, known]
  rfl

theorem quiet_named_bind {find : Names → List (String × α)} {name : String} {next : α → Act β} {world : World}
    (rest : ∀ found, (name, found) ∈ find world.names →
      ∃ occurrences, Quiet world occurrences ((next found).after world)) :
    ∃ occurrences, Quiet world occurrences ((named find name >>= next).after world) := by
  unfold after
  rw [run_bind, run_named]
  cases found : (find world.names).lookup name with
  | none => exact ⟨[], .refl world⟩
  | some value => exact rest value (mem_of_lookup found)

/-- To read preferences is to read a text: no host is concerned, and a refusal
is an error of the program. -/
theorem remarking_preferences (text : String) : Remarking (preferences text) := by
  refine (remarking_noteAll fun occurrence member => ?_).bind fun _ => remarking_orFail _
  unfold Preferences.remarksOn at member
  split at member
  · unfold Preferences.remarks at member
    split at member
    · rw [List.mem_singleton.mp member]
      rfl
    · exact absurd member List.not_mem_nil
  · exact absurd member List.not_mem_nil

theorem remarking_changeFlags (name : String) (change : Flags → Flags) : Remarking (changeFlags name change) :=
  (remarking_named _ _).bind fun id => (remarking_flags id).bind fun _ =>
    (remarking_setFlags id _).bind fun _ => remarking_pure _

theorem still_nameFlags (name : String) (values : Flags) : Still (nameFlags name values) := by
  refine still_number.bind fun number => (remarking_setFlags ⟨number⟩ values).still.bind fun _ => ?_
  exact still_rename_bind (fun _ => rfl) (fun _ => rfl) (fun _ => rfl) (still_pure _)

theorem still_nameSnapshot (name : String) (values : Flags) : Still (nameSnapshot name values) :=
  still_rename_bind (fun _ => rfl) (fun _ => rfl) (fun _ => rfl) (still_pure _)

theorem still_oracle (form : OracleForm) : Still (oracle form) := by
  cases form with
  | fixed phase => exact still_pure _
  | environment name => exact still_pure _
  | sequence answers => exact still_number.bind fun _ => still_pure _

theorem remarking_setFiles (result : Except FileFault Files) : Remarking (setFiles result) := by
  refine (remarking_orFail _).bind fun files => Remarking.bind ?_ fun _ => remarking_pure _
  exact remarking_modify (fun _ => rfl) (fun _ => rfl) (fun _ => rfl) (fun _ => rfl) fun _ => rfl

theorem remarking_emitter (name : String) : Remarking (emitter name) := by
  refine (remarking_named _ _).bind fun id => (remarking_sink id).bind fun found => ?_
  split
  · exact remarking_pure _
  · exact remarking_throw _

theorem remarking_emissions (name : String) : Remarking (emissions name) := by
  refine (remarking_named _ _).bind fun id => (remarking_sink id).bind fun found => ?_
  split
  · exact remarking_pure _
  · exact remarking_throw _

theorem still_newSink (name : String) (form : SinkForm) : Still (newSink name form) := by
  refine still_number.bind fun number => (remarking_setSink ⟨number⟩ _).still.bind fun _ => ?_
  exact still_rename_bind (fun _ => rfl) (fun _ => rfl) (fun _ => rfl) (still_pure _)

/-- A precompiler gets its name; the hosts that it is for have names
already. This is where the names of a session are kept leading to
hosts that are there. -/
theorem namePrecompiler_quiet {name : String} {precompiler : Precompiler} {world : World}
    (made : world.NamesMade → world.Made precompiler.monitor ∧ world.Made precompiler.engine) :
    ∃ occurrences, Quiet world occurrences ((namePrecompiler name precompiler).after world) := by
  refine ⟨[], rfl, by simp, fun _ _ => rfl, fun _ _ => Or.inl rfl, rfl, Nat.le_refl _,
    fun before => ⟨before.hosts, before.monitors, ?_⟩⟩
  intro entry member
  rcases mem_putEntry member with rfl | old
  · exact made before
  · exact before.precompilers entry old

/-- A lockout that is let go is no longer in the hand when it puts its mode
back. The mode is put back as it was remembered, not as it should be: nobody
checks who else has locked the host. -/
theorem proceeds_release (name : String) (lockout : Lockout) : Proceeds (release name lockout) :=
  fun world => ⟨_, .move .lockLetGo (.put world lockout.engine _ [_, _])⟩

/-- A lockout with a name stays in the hand. A name that stood for another one
lets that one go. The new one is taken first, so on the same host it remembers
the mode that the old one has forced. -/
theorem proceeds_lockNamed (name host : String) : Proceeds (lockNamed name host) := by
  refine Proceeds.bind (remarking_named _ _).proceeds fun engine world => ?_
  have locked : Course world [.locked engine (world.hosts.get engine).mode,
      .held ⟨name, none, engine, (world.hosts.get engine).mode⟩] _ := .move .lockHeld (.put world engine _ _)
  rw [after_bind_ok (lock_locked engine world).1, after_note_bind]
  refine locked.onward (Proceeds.bind remarking_get.proceeds (fun before => ?_) _)
  refine proceeds_rename_bind (fun _ => rfl) (fun _ => rfl) (fun _ => rfl) ?_
  dsimp only
  split
  · exact proceeds_pure _
  · exact (proceeds_release name _).bind fun _ => proceeds_pure _

theorem proceeds_unlockNamed (name : String) : Proceeds (unlockNamed name) := by
  refine Proceeds.bind remarking_get.proceeds fun before => ?_
  split
  · exact proceeds_pure _
  · refine proceeds_rename_bind (fun _ => rfl) (fun _ => rfl) (fun _ => rfl) ?_
    exact (proceeds_release name _).bind fun _ => proceeds_pure _

theorem still_takeGuard (name : String) : Still (takeGuard name) :=
  remarking_get.still.bind fun _ => still_rename_bind (fun _ => rfl) (fun _ => rfl) (fun _ => rfl) (still_pure _)

end Act

theorem Guard.ClosesQuietly.course {guard : Guard} {name : String} {world later : World}
    (closes : guard.ClosesQuietly (world.noting (.letGo (guard.holding name))) later) :
    ∃ occurrences, Course world occurrences later := by
  obtain ⟨closing, closed, remarks, done, said⟩ := closes
  exact ⟨_, .next (.givenUp done) (.quiet said.quiet)⟩

namespace Act

theorem proceeds_dropNamed (name : String) (guard : Guard) : Proceeds (dropNamed name guard) :=
  fun world => (guard.drop_closesQuietly (world.noting (.letGo (guard.holding name)))).course

theorem proceeds_finishNamed (name : String) (guard : Guard) : Proceeds (finishNamed name guard) :=
  fun world => (guard.disarm_closesQuietly (world.noting (.letGo (guard.holding name)))).course

/-- A capture that is begun under a name stays in the hand. A name that stood
for another guard drops that one. The old guard is dropped behind the opening
of the new one, so on the same host the new one is nested in it. -/
theorem proceeds_beginNamed (thread : ThreadId) (name guardName : String) :
    Proceeds (beginNamed thread name guardName) := by
  refine Proceeds.bind (remarking_named _ _).proceeds fun precompiler => ?_
  refine Precompiler.proceeds_beginCapture_bind (proceeds_pure _) fun {guard _ _ later} opens => ?_
  rw [after_note_bind]
  refine Course.onward (.kept opens) (Proceeds.bind (still_takeGuard guardName).proceeds (fun replaced => ?_) _)
  refine proceeds_rename_bind (fun _ => rfl) (fun _ => rfl) (fun _ => rfl) ?_
  dsimp only
  split
  · split <;> exact proceeds_pure _
  · refine (proceeds_dropNamed guardName _).bind fun _ => ?_
    split <;> exact proceeds_pure _

theorem beginLevel_byHand (id : HostId) (unit : String) (verbose : Bool) (thread : ThreadId) (world : World) :
    ∃ occurrences, Course world occurrences
      ((beginLevel id unit verbose thread).after (world.noting (.monitorUsed id))) := by
  cases level : (world.hosts.get id).beginCapture? thread verbose with
  | none =>
    obtain ⟨_, left⟩ := @beginLevel_refused id unit verbose thread (world.noting (.monitorUsed id)) level
    rw [left]
    exact ⟨_, .move .refusedByHand (.unchanged rfl rfl rfl rfl)⟩
  | some claimed =>
    obtain ⟨nesting, changed⟩ := claimed
    obtain ⟨_, claim⟩ := @beginLevel_begun id unit verbose thread (world.noting (.monitorUsed id)) _ _ level
    exact ⟨_, .move (.begunByHand level) ⟨claim.trace, claim.hosts, claim.fresh, claim.names⟩⟩

theorem endLevel_byHand (id : HostId) (world : World) :
    ∃ occurrences, Course world occurrences ((endLevel id).after (world.noting (.monitorUsed id))) := by
  obtain ⟨_, level⟩ := endLevel_ended id (world.noting (.monitorUsed id))
  exact ⟨_, .move .endedByHand ⟨level.trace, level.hosts, level.fresh, level.names⟩⟩

end Act

namespace Command

open Act

/-- Making a host leaves every host that was there as it is. The new one has a
number that no host had, so it is not among them. -/
theorem still_newHost (name : String) (here : HostId) (thread : ThreadId) : Still ((newHost name).run here thread) := by
  intro world
  refine ⟨[], rfl, by simp, fun id made => ?_, fun id _ => ?_, rfl, Nat.le_succ _, fun before => ⟨?_, ?_, ?_⟩⟩
  · have old : id ≠ ⟨world.fresh⟩ := by
      rintro rfl
      exact Nat.lt_irrefl _ made
    exact (Store.get_put ..).trans (if_neg old)
  · by_cases new : id = ⟨world.fresh⟩
    · exact Or.inr ((Store.get_put ..).trans (if_pos new))
    · exact Or.inl ((Store.get_put ..).trans (if_neg new))
  · intro entry member
    rcases mem_putEntry member with rfl | old
    · exact Nat.lt_succ_self _
    · exact Nat.lt_succ_of_lt (before.hosts entry old)
  · exact fun entry member => Nat.lt_succ_of_lt (before.monitors entry member)
  · exact fun entry member => (before.precompilers entry member).imp Nat.lt_succ_of_lt Nat.lt_succ_of_lt

theorem still_newMonitor (name host : String) (here : HostId) (thread : ThreadId) :
    Still ((newMonitor name host).run here thread) := by
  intro world
  refine quiet_named_bind fun id hostNamed => ?_
  refine ⟨[], rfl, by simp, fun _ _ => rfl, fun _ _ => Or.inl rfl, rfl, Nat.le_refl _,
    fun before => ⟨before.hosts, ?_, before.precompilers⟩⟩
  intro entry member
  rcases mem_putEntry member with rfl | old
  · exact before.hosts (host, id) hostNamed
  · exact before.monitors entry old

theorem still_withArtifact (name precompiler artifact : String) (here : HostId) (thread : ThreadId) :
    Still ((withArtifact name precompiler artifact).run here thread) := by
  intro world
  refine quiet_named_bind fun found known => ?_
  exact namePrecompiler_quiet fun before => before.precompilers _ known

theorem still_forUnit (name precompiler unit : String) (here : HostId) (thread : ThreadId) :
    Still ((forUnit name precompiler unit).run here thread) := by
  intro world
  refine quiet_named_bind fun found known => ?_
  exact namePrecompiler_quiet fun before => before.precompilers _ known

theorem proceeds_beginLevel (monitor unit : String) (verbose : Bool) (here : HostId) (thread : ThreadId) :
    Proceeds ((beginLevel monitor unit verbose).run here thread) := by
  refine (remarking_named _ _).proceeds.bind fun id world => ?_
  obtain ⟨occurrences, used⟩ := beginLevel_byHand id unit verbose thread world
  exact used.bind fun nesting => by split <;> exact proceeds_pure _

theorem proceeds_endLevel (monitor : String) (here : HostId) (thread : ThreadId) :
    Proceeds ((endLevel monitor).run here thread) := by
  refine (remarking_named _ _).proceeds.bind fun id world => ?_
  obtain ⟨occurrences, used⟩ := endLevel_byHand id world
  exact used.bind fun ending => by split <;> exact proceeds_pure _

theorem still_newPrecompiler (name : String) (form : PrecompilerForm) : Still (Act.newPrecompiler name form) := by
  refine (still_oracle _).bind fun oracle => (remarking_named _ _).still.bind fun flags world => ?_
  refine quiet_named_bind fun engine engineNamed => ?_
  refine quiet_named_bind fun sink _ => ?_
  cases monitor : form.monitor with
  | none =>
    refine namePrecompiler_quiet fun before => ?_
    exact ⟨before.hosts _ engineNamed, before.hosts _ engineNamed⟩
  | some monitor =>
    refine quiet_named_bind fun id monitorNamed => ?_
    refine namePrecompiler_quiet fun before => ?_
    exact ⟨before.monitors _ monitorNamed, before.hosts _ engineNamed⟩

/-- Commands that leave all hosts alone. What is left are the
commands that set the mode or the listener, use a monitor or a
lockout, or hold a capture. -/
def leavesHosts : Command → Bool
  | setMode _ | hook _ | unhook | beginLevel .. | endLevel _ | lock .. | unlock _ | beginCapture .. | finish _
  | drop _ => false
  | _ => true

/-- Such a command changes no host that is there. The proof goes through the
commands one by one. -/
theorem still {command : Command} (leaves : command.leavesHosts = true) (here : HostId) (thread : ThreadId) :
    Still (command.run here thread) := by
  unfold Command.run
  cases command with
  | newHost name => exact still_newHost name here thread
  | mode => exact Remarking.still ((remarking_host here).bind fun _ => remarking_pure _)
  | collected name =>
    exact Remarking.still ((remarking_named _ _).bind fun id => remarking_get.bind fun _ => remarking_pure _)
  | newFlags name => exact still_nameFlags name _
  | flagsOfText name text => exact (remarking_preferences text).still.bind fun _ => still_nameFlags name _
  | reloadFlags name text =>
    exact Remarking.still ((remarking_preferences text).bind fun _ => remarking_changeFlags name _)
  | setForceRun name on => exact (remarking_changeFlags name _).still
  | setVerbose name on => exact (remarking_changeFlags name _).still
  | setSkip name unit on => exact (remarking_changeFlags name _).still
  | flagState name units =>
    exact Remarking.still ((remarking_named _ _).bind fun id => (remarking_flags id).bind fun _ => remarking_pure _)
  | shouldRun name unit phase =>
    exact Remarking.still ((remarking_named _ _).bind fun id => (remarking_flags id).bind fun _ => remarking_pure _)
  | snapshot name flagsName =>
    exact (remarking_named _ _).still.bind fun id => (remarking_flags id).still.bind fun _ => still_nameSnapshot name _
  | snapshotOf name precompiler =>
    refine (remarking_named _ _).still.bind fun found => ?_
    exact (remarking_flags _).still.bind fun _ => still_nameSnapshot name _
  | snapshotState name units => exact Remarking.still ((remarking_named _ _).bind fun _ => remarking_pure _)
  | snapshotShouldRun name unit phase =>
    exact Remarking.still ((remarking_named _ _).bind fun _ => remarking_pure _)
  | sameSnapshots a b =>
    exact Remarking.still ((remarking_named _ _).bind fun _ => (remarking_named _ _).bind fun _ => remarking_pure _)
  | setVariable name value =>
    refine Remarking.still (Remarking.bind ?_ fun _ => remarking_pure _)
    exact remarking_modify (fun _ => rfl) (fun _ => rfl) (fun _ => rfl) (fun _ => rfl) fun _ => rfl
  | askPhase form =>
    exact (still_oracle form).bind fun oracle => ((remarking_phase oracle).bind fun _ =>
      (remarking_orFail _).bind fun _ => remarking_pure _).still
  | newSink name form => exact still_newSink name form
  | emit sink artifact signatures =>
    exact (remarking_named _ _).still.bind fun id => (still_handOver id _).bind fun _ => still_pure _
  | emissions sink => exact Remarking.still ((remarking_emissions sink).bind fun _ => remarking_pure _)
  | emittedSignatures sink => exact Remarking.still ((remarking_emissions sink).bind fun _ => remarking_pure _)
  | directives sink artifact => exact Remarking.still ((remarking_emitter sink).bind fun _ => remarking_pure _)
  | isEmitted sink artifact signature =>
    exact Remarking.still ((remarking_emitter sink).bind fun _ => remarking_pure _)
  | stats sink => exact Remarking.still ((remarking_emitter sink).bind fun _ => remarking_pure _)
  | clear sink =>
    exact Remarking.still ((remarking_named _ _).bind fun id => (remarking_emitter sink).bind fun _ =>
      (remarking_setSink id _).bind fun _ => remarking_pure _)
  | manifest sink artifact =>
    exact Remarking.still (remarking_get.bind fun _ => (remarking_orFail _).bind fun _ => remarking_pure _)
  | manifestText sink artifact =>
    exact Remarking.still (remarking_get.bind fun _ => (remarking_orFail _).bind fun _ => remarking_pure _)
  | manifestFiles sink =>
    refine Remarking.still (remarking_get.bind fun _ => ?_)
    dsimp only
    split <;> exact remarking_pure _
  | overwrite sink artifact text => exact Remarking.still (remarking_get.bind fun _ => remarking_setFiles _)
  | block sink => exact Remarking.still (remarking_get.bind fun _ => remarking_setFiles _)
  | unblock sink => exact Remarking.still (remarking_get.bind fun _ => remarking_setFiles _)
  | newMonitor name host => exact still_newMonitor name host here thread
  | isArmed monitor =>
    exact Remarking.still ((remarking_named _ _).bind fun id => (remarking_host id).bind fun _ => remarking_pure _)
  | recorded monitor =>
    exact Remarking.still ((remarking_named _ _).bind fun id => (remarking_host id).bind fun _ => remarking_pure _)
  | newPrecompiler name form => exact still_newPrecompiler name form
  | withArtifact name precompiler artifact => exact still_withArtifact name precompiler artifact here thread
  | forUnit name precompiler unit => exact still_forUnit name precompiler unit here thread
  | describe precompiler =>
    refine Remarking.still ((remarking_named _ _).bind fun found => ?_)
    exact (remarking_host _).bind fun _ => remarking_pure _
  | isEnabled precompiler =>
    refine Remarking.still ((remarking_named _ _).bind fun found => ?_)
    exact (Precompiler.remarking_gate _).bind fun _ => remarking_pure _
  | _ => cases leaves

/-- Whatever a command does is the course of a session. Together with the
evaluation of the other forms, this makes every session a course. -/
theorem proceeds (command : Command) (here : HostId) (thread : ThreadId) : Proceeds (command.run here thread) := by
  cases leaves : command.leavesHosts with
  | true => exact (still leaves here thread).proceeds
  | false =>
    unfold Command.run
    cases command with
    | setMode mode => exact fun world => ⟨_, .move .switched (.put world here _ [_])⟩
    | hook name =>
      refine still_number.proceeds.bind fun number => ?_
      refine proceeds_rename_bind (fun _ => rfl) (fun _ => rfl) (fun _ => rfl) ?_
      exact fun world => ⟨_, .move .hooked (.put world here _ [_])⟩
    | unhook => exact fun world => ⟨_, .move .unhooked (.put world here _ [_])⟩
    | beginLevel monitor unit verbose => exact proceeds_beginLevel monitor unit verbose here thread
    | endLevel monitor => exact proceeds_endLevel monitor here thread
    | lock name host => exact proceeds_lockNamed name host
    | unlock name => exact proceeds_unlockNamed name
    | beginCapture precompiler guard => exact proceeds_beginNamed thread precompiler guard
    | finish guard =>
      refine (still_takeGuard guard).proceeds.bind fun found => ?_
      cases found with
      | none => exact proceeds_pure _
      | some found => exact (proceeds_finishNamed guard found).bind fun _ => proceeds_pure _
    | drop guard =>
      refine (still_takeGuard guard).proceeds.bind fun found => ?_
      cases found with
      | none => exact proceeds_pure _
      | some found => exact (proceeds_dropNamed guard found).bind fun _ => proceeds_pure _
    | _ => cases leaves

end Command

end CallCapture
