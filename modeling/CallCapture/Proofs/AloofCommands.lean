import CallCapture.Proofs.AloofActions

namespace CallCapture

namespace Act

variable {α β : Type}

theorem aloof_oracle (form : OracleForm) : Aloof (oracle form) := by
  cases form with
  | fixed phase => exact aloof_pure _
  | environment name => exact aloof_pure _
  | sequence answers => exact aloof_number.bind fun _ => aloof_pure _

theorem aloof_setFiles (result : Except FileFault Files) : Aloof (setFiles result) :=
  (aloof_orFail _).bind fun _ => Aloof.bind (fun _ _ _ _ => rfl) fun _ => aloof_pure _

theorem aloof_emitter (name : String) : Aloof (emitter name) := by
  refine (aloof_named _ _).bind fun id => (aloof_sink id).bind fun found => ?_
  split
  · exact aloof_pure _
  · exact aloof_throw _

theorem aloof_emissions (name : String) : Aloof (emissions name) := by
  refine (aloof_named _ _).bind fun id => (aloof_sink id).bind fun found => ?_
  split
  · exact aloof_pure _
  · exact aloof_throw _

theorem aloof_newSink (name : String) (form : SinkForm) : Aloof (newSink name form) :=
  aloof_number.bind fun _ => (aloof_setSink _ _).bind fun _ => (aloof_rename _).bind fun _ => aloof_pure _

theorem aloof_namePrecompiler (name : String) (precompiler : Precompiler) :
    Aloof (namePrecompiler name precompiler) :=
  (aloof_rename _).bind fun _ => aloof_pure _

/-- A precompiler is made with the name of its flags. Nobody looks at
them when it is made. -/
theorem aloof_newPrecompiler (name : String) (form : PrecompilerForm) : Aloof (newPrecompiler name form) := by
  refine (aloof_oracle _).bind fun oracle => (aloof_named _ _).bind fun flags => (aloof_named _ _).bind fun engine => ?_
  refine (aloof_named _ _).bind fun sink => ?_
  cases form.monitor with
  | none => exact (aloof_pure _).bind fun _ => aloof_namePrecompiler _ _
  | some monitor => exact (aloof_named _ _).bind fun _ => aloof_namePrecompiler _ _

theorem aloof_release (name : String) (lockout : Lockout) : Aloof (release name lockout) :=
  (aloof_note _).bind fun _ => aloof_unlock _ _

theorem aloof_lockNamed (name host : String) : Aloof (lockNamed name host) := by
  refine (aloof_named _ _).bind fun engine => (aloof_lock engine).bind fun previous => (aloof_note _).bind fun _ => ?_
  refine aloof_get_bind (fun _ _ _ _ => rfl) fun world => (aloof_rename _).bind fun _ => ?_
  split
  · exact aloof_pure _
  · exact (aloof_release _ _).bind fun _ => aloof_pure _

theorem aloof_unlockNamed (name : String) : Aloof (unlockNamed name) := by
  refine aloof_get_bind (fun _ _ _ _ => rfl) fun world => ?_
  split
  · exact aloof_pure _
  · exact (aloof_rename _).bind fun _ => (aloof_release _ _).bind fun _ => aloof_pure _

theorem aloof_takeGuard (name : String) : Aloof (takeGuard name) :=
  aloof_get_bind (fun _ _ _ _ => rfl) fun _ => (aloof_rename _).bind fun _ => aloof_pure _

theorem aloof_dropNamed (name : String) (guard : Guard) : Aloof (dropNamed name guard) :=
  (aloof_note _).bind fun _ => guard.aloof_drop

theorem aloof_finishNamed (name : String) (guard : Guard) : Aloof (finishNamed name guard) :=
  (aloof_note _).bind fun _ => guard.aloof_disarm

end Act

namespace Command

open Act

/-- Commands that look at flags or change them, ask an oracle, or set
a variable that one reads. To begin a capture and to ask whether a
scope is open are among them, as both go through a gate. -/
def mindsSwitches : Command → Bool
  | newFlags _ | flagsOfText .. | reloadFlags .. | setForceRun .. | setVerbose .. | setSkip .. | flagState ..
  | shouldRun .. | snapshot .. | snapshotOf .. | setVariable .. | askPhase _ | isEnabled _ | beginCapture .. => true
  | _ => false

/-- All other commands have nothing to do with flags, oracles and variables.
The proof goes through the commands one by one. Whoever adds a command has to
say here which kind it is. -/
theorem aloof {command : Command} (minds : command.mindsSwitches = false) (here : HostId) (thread : ThreadId) :
    Aloof (command.run here thread) := by
  unfold Command.run
  cases command with
  | newHost name =>
    exact aloof_number.bind fun _ => (aloof_setHost _ _).bind fun _ => (aloof_rename _).bind fun _ => aloof_pure _
  | mode => exact (aloof_host here).bind fun _ => aloof_pure _
  | setMode wanted =>
    exact (aloof_host here).bind fun _ => (aloof_setHost _ _).bind fun _ => (aloof_note _).bind fun _ => aloof_pure _
  | hook name =>
    exact aloof_number.bind fun _ => (aloof_rename _).bind fun _ => (aloof_host here).bind fun _ =>
      (aloof_setHost _ _).bind fun _ => (aloof_note _).bind fun _ => aloof_pure _
  | unhook =>
    exact (aloof_host here).bind fun _ => (aloof_setHost _ _).bind fun _ => (aloof_note _).bind fun _ => aloof_pure _
  | collected name =>
    exact (aloof_named _ _).bind fun _ => aloof_get_bind (fun _ _ _ _ => rfl) fun _ => aloof_pure _
  | snapshotState name units => exact (aloof_named _ _).bind fun _ => aloof_pure _
  | snapshotShouldRun name unit phase => exact (aloof_named _ _).bind fun _ => aloof_pure _
  | sameSnapshots a b => exact (aloof_named _ _).bind fun _ => (aloof_named _ _).bind fun _ => aloof_pure _
  | newSink name form => exact aloof_newSink name form
  | emit sink artifact signatures =>
    exact (aloof_named _ _).bind fun _ => (aloof_handOver _ _ _).bind fun _ => aloof_pure _
  | emissions sink => exact (aloof_emissions sink).bind fun _ => aloof_pure _
  | emittedSignatures sink => exact (aloof_emissions sink).bind fun _ => aloof_pure _
  | directives sink artifact => exact (aloof_emitter sink).bind fun _ => aloof_pure _
  | isEmitted sink artifact signature => exact (aloof_emitter sink).bind fun _ => aloof_pure _
  | stats sink => exact (aloof_emitter sink).bind fun _ => aloof_pure _
  | clear sink =>
    exact (aloof_named _ _).bind fun _ => (aloof_emitter sink).bind fun _ => (aloof_setSink _ _).bind fun _ =>
      aloof_pure _
  | manifest sink artifact =>
    exact aloof_get_bind (fun _ _ _ _ => rfl) fun _ => (aloof_orFail _).bind fun _ => aloof_pure _
  | manifestText sink artifact =>
    exact aloof_get_bind (fun _ _ _ _ => rfl) fun _ => (aloof_orFail _).bind fun _ => aloof_pure _
  | manifestFiles sink =>
    refine aloof_get_bind (fun _ _ _ _ => rfl) fun world => ?_
    dsimp only
    split <;> exact aloof_pure _
  | overwrite sink artifact text => exact aloof_get_bind (fun _ _ _ _ => rfl) fun _ => aloof_setFiles _
  | block sink => exact aloof_get_bind (fun _ _ _ _ => rfl) fun _ => aloof_setFiles _
  | unblock sink => exact aloof_get_bind (fun _ _ _ _ => rfl) fun _ => aloof_setFiles _
  | newMonitor name host => exact (aloof_named _ _).bind fun _ => (aloof_rename _).bind fun _ => aloof_pure _
  | beginLevel monitor unit verbose =>
    refine (aloof_named _ _).bind fun id => (aloof_note _).bind fun _ => (aloof_beginLevel _ _ _ _).bind fun nesting => ?_
    split <;> exact aloof_pure _
  | endLevel monitor =>
    refine (aloof_named _ _).bind fun id => (aloof_note _).bind fun _ => (aloof_endLevel _).bind fun ending => ?_
    split <;> exact aloof_pure _
  | isArmed monitor => exact (aloof_named _ _).bind fun _ => (aloof_host _).bind fun _ => aloof_pure _
  | recorded monitor => exact (aloof_named _ _).bind fun _ => (aloof_host _).bind fun _ => aloof_pure _
  | lock name host => exact aloof_lockNamed name host
  | unlock name => exact aloof_unlockNamed name
  | newPrecompiler name form => exact aloof_newPrecompiler name form
  | withArtifact name precompiler artifact => exact (aloof_named _ _).bind fun _ => aloof_namePrecompiler _ _
  | forUnit name precompiler unit => exact (aloof_named _ _).bind fun _ => aloof_namePrecompiler _ _
  | describe precompiler => exact (aloof_named _ _).bind fun _ => (aloof_host _).bind fun _ => aloof_pure _
  | finish guard =>
    refine (aloof_takeGuard guard).bind fun found => ?_
    cases found with
    | none => exact aloof_pure _
    | some found => exact (aloof_finishNamed guard found).bind fun _ => aloof_pure _
  | drop guard =>
    refine (aloof_takeGuard guard).bind fun found => ?_
    cases found with
    | none => exact aloof_pure _
    | some found => exact (aloof_dropNamed guard found).bind fun _ => aloof_pure _
  | _ => cases minds

end Command

end CallCapture
