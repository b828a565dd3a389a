import CallCapture.Proofs.Follow
import CallCapture.Proofs.History
import CallCapture.Session.Capture
import Mathlib.Algebra.GroupWithZero.Nat
import Mathlib.Data.List.Induction
import Mathlib.Data.List.Nodup

namespace CallCapture

theorem nodup_eraseDups {α : Type} [DecidableEq α] (items : List α) : items.eraseDups.Nodup := by
  induction items using List.reverseRecOn with
  | nil => exact List.nodup_nil
  | append_singleton before last ih =>
    rw [eraseDups_append_singleton]
    split
    · exact ih
    · rename_i new
      rw [← List.concat_eq_append]
      exact ih.concat (mt List.mem_eraseDups.mp new)

theorem removeAll_cons_known (known rest : List Signature) (first : Signature) :
    rest.removeAll (first :: known) = (rest.removeAll known).filter fun other => !other == first := by
  unfold List.removeAll
  rw [List.filter_filter]
  refine List.filter_congr fun other _ => ?_
  by_cases same : other = first <;> simp [same]

/-- What is fresh among signatures are those that are not known, each once
and in the order of its first occurrence. The recursion that finds them
learns them as it goes. -/
theorem freshSignatures_eq (known signatures : List Signature) :
    freshSignatures known signatures = (signatures.removeAll known).eraseDups := by
  induction signatures generalizing known with
  | nil => rfl
  | cons first rest ih =>
    unfold freshSignatures
    by_cases seen : first ∈ known
    · rw [if_pos (List.contains_iff_mem.mpr seen), ih]
      simp [List.removeAll, seen]
    · rw [if_neg (mt List.contains_iff_mem.mp seen), ih, removeAll_cons_known, ← List.eraseDups_cons]
      simp [List.removeAll, seen]

/-- What is known already and what is new, together, are all that was ever
given. This is what makes the order of an artifact that of first occurrences,
however the emissions divide it. -/
theorem append_freshSignatures (given signatures : List Signature) :
    given.eraseDups ++ freshSignatures given.eraseDups signatures = (given ++ signatures).eraseDups := by
  have known : signatures.removeAll given.eraseDups = signatures.removeAll given := by
    refine List.filter_congr fun signature _ => ?_
    simp
  rw [freshSignatures_eq, known, List.eraseDups_append]

namespace Act

/-- A call of a sink fails just if the sink refuses; else the sink has
changed, and an emitter has said by how much it grew. -/
theorem handOver_answered (source : Option HostId) (id : SinkId) (emission : Emission) (world : World) :
    match ((world.sinks.get id).emit world.files emission).1 with
    | .error error => (handOver source id emission).outcome world = .error (.error error) ∧
        ((handOver source id emission).after world).sinks.get id = world.sinks.get id
    | .ok (growth, changed) => (handOver source id emission).outcome world = .ok () ∧
        ((handOver source id emission).after world).sinks.get id = changed ∧
        ∀ counts, growth = some counts → ∃ earlier, ((handOver source id emission).after world).trace =
          .emitted emission.artifact counts.added counts.total :: earlier := by
  have asked : ((world.noting (.handedOver source id emission.artifact emission.signatures)).sinks.get id).emit
      (world.noting (.handedOver source id emission.artifact emission.signatures)).files emission =
        (world.sinks.get id).emit world.files emission := rfl
  unfold outcome after handOver
  rw [run_note_bind, run_sink_bind, run_get_bind, asked]
  generalize (world.sinks.get id).emit world.files emission = answer
  obtain ⟨result, files⟩ := answer
  dsimp only
  rw [run_modify_bind, run_orFail_bind]
  cases result with
  | error error => exact ⟨rfl, rfl⟩
  | ok grown =>
    obtain ⟨growth, changed⟩ := grown
    have put := (Store.get_put world.sinks id id changed).trans (if_pos rfl)
    dsimp only
    rw [run_setSink_bind]
    cases growth with
    | none => exact ⟨rfl, put, fun _ none => nomatch none⟩
    | some growth =>
      dsimp only
      split
      · exact ⟨rfl, put, fun _ same => Option.some.inj same ▸ ⟨_, rfl⟩⟩
      · exact ⟨rfl, put, fun _ same => Option.some.inj same ▸ ⟨_, rfl⟩⟩

end Act

namespace Emitter

/-- What a successful emission comes to: the artifact has what it had and what
is new, and the growth counts both. It holds with a directory and without one;
the writing of a manifest changes the files only. -/
theorem emit_ok {emitter grown : Emitter} {files later : Files} {artifact : String} {signatures : List Signature}
    {growth : Growth} (accepted : emitter.emit files artifact signatures = (.ok (growth, grown), later)) :
    growth.added = (freshSignatures (emitter.signatures artifact) signatures).length ∧
      growth.total = (emitter.signatures artifact).length + growth.added ∧
      grown.artifacts = putEntry emitter.artifacts artifact
        (emitter.signatures artifact ++ freshSignatures (emitter.signatures artifact) signatures) := by
  unfold emit at accepted
  split at accepted
  · cases accepted
  · dsimp only at accepted
    split at accepted
    · cases accepted
      exact ⟨rfl, List.length_append, rfl⟩
    · split at accepted
      · cases accepted
      · cases accepted
        exact ⟨rfl, List.length_append, rfl⟩

theorem signatures_of_artifacts {emitter grown : Emitter} {artifact : String} {all : List Signature}
    (put : grown.artifacts = putEntry emitter.artifacts artifact all) (other : String) :
    grown.signatures other = if other = artifact then all else emitter.signatures other := by
  unfold signatures
  rw [put, lookup_putEntry]
  split <;> rfl

/-- An emitter that is handed signatures refuses and stays as it is,
or it grows and says by how much. No third thing can happen,
whatever the files are. -/
theorem handOver {emitter : Emitter} {world : World} {id : SinkId} (kept : world.sinks.get id = .emitter emitter)
    (source : Option HostId) (artifact : String) (signatures : List Signature) :
    (∃ error, (Act.handOver source id ⟨artifact, signatures⟩).outcome world = .error (.error error) ∧
        ((Act.handOver source id ⟨artifact, signatures⟩).after world).sinks.get id = .emitter emitter) ∨
      ∃ growth grown files, emitter.emit world.files artifact signatures = (.ok (growth, grown), files) ∧
        (Act.handOver source id ⟨artifact, signatures⟩).outcome world = .ok () ∧
        ((Act.handOver source id ⟨artifact, signatures⟩).after world).sinks.get id = .emitter grown ∧
        ∃ earlier, ((Act.handOver source id ⟨artifact, signatures⟩).after world).trace =
          .emitted artifact growth.added growth.total :: earlier := by
  have answered := Act.handOver_answered source id ⟨artifact, signatures⟩ world
  rw [kept] at answered
  unfold Sink.emit at answered
  dsimp only at answered
  rcases emitted : emitter.emit world.files artifact signatures with ⟨error | ⟨growth, grown⟩, files⟩
  · rw [emitted] at answered
    exact Or.inl ⟨error, answered⟩
  · rw [emitted] at answered
    exact Or.inr ⟨growth, grown, files, rfl, answered.1, answered.2.1, answered.2.2 growth rfl⟩

end Emitter

/-- All signatures that were accepted for an artifact, one emission
behind the other. Signatures that were accepted more than once stand in
it more than once. -/
def acceptedFor (log : List Emission) (artifact : String) : List Signature :=
  (log.filter fun emission => emission.artifact = artifact).flatMap Emission.signatures

/-- The artifacts with an accepted emission, in the order of the first ones.
An artifact whose only emissions were empty is among them. -/
def acceptedArtifacts (log : List Emission) : List String := (log.map Emission.artifact).eraseDups

theorem acceptedFor_append_singleton (log : List Emission) (emission : Emission) (artifact : String) :
    acceptedFor (log ++ [emission]) artifact =
      if artifact = emission.artifact then acceptedFor log artifact ++ emission.signatures
      else acceptedFor log artifact := by
  unfold acceptedFor
  rw [List.filter_append, List.flatMap_append]
  split
  · rename_i same
    simp [same]
  · rename_i different
    simp [Ne.symm different]

/-- What is asked of an emitter; in between, others may put anything into the
files. A call may come from a capture of some host or from the session itself,
which makes no difference to the emitter. -/
inductive EmitterCall where
  | emit (source : Option HostId) (artifact : String) (signatures : List Signature)
  | clear
  | disturb (nodes : List (Path × Node))

namespace EmitterCall

/-- The action that a call of this kind is. Where the sink is no emitter there
is nothing to clear. -/
def act (id : SinkId) : EmitterCall → Act Unit
  | emit source artifact signatures => Act.handOver source id ⟨artifact, signatures⟩
  | clear => do
    match ← Act.sink id with
    | .emitter store => Act.setSink id (.emitter store.clear)
    | _ => return
  | disturb nodes => modify fun world => { world with files := { world.files with nodes := nodes } }

/-- The log behind a call: only what was accepted comes into it, and a
clearing empties it. The log knows nothing of what the emitter holds; it is
told only whether the emission was accepted. -/
def account (log : List Emission) (outcome : Except Halt Unit) : EmitterCall → List Emission
  | emit _ artifact signatures =>
    match outcome with
    | .ok _ => log ++ [⟨artifact, signatures⟩]
    | .error _ => log
  | clear => []
  | disturb _ => log

end EmitterCall

/-- A world with the log of one of its emitters. Both go through the same
calls, the world by running them and the log by keeping account. -/
structure Ledger where
  world : World
  log : List Emission := []

namespace Ledger

/-- The world and the log behind one call. How the call ended decides whether
the log has a further entry. -/
def step (id : SinkId) (ledger : Ledger) (call : EmitterCall) : Ledger where
  world := (call.act id).after ledger.world
  log := call.account ledger.log ((call.act id).outcome ledger.world)

/-- The world and the log behind any number of calls. It is defined by the
single steps, so that what each of them keeps is kept by all. -/
def run (id : SinkId) (ledger : Ledger) (calls : List EmitterCall) : Ledger := calls.foldl (step id) ledger

/-- An emitter holds what the log says: for each artifact what was accepted
for it, each signature once and in the order of its first occurrence. The
artifacts come in the order in which they were first accepted. -/
structure Agrees (emitter : Emitter) (log : List Emission) : Prop where
  artifacts : emitter.artifacts.map Prod.fst = acceptedArtifacts log
  signatures : ∀ artifact, emitter.signatures artifact = (acceptedFor log artifact).eraseDups

theorem agrees_clear (emitter : Emitter) : Agrees emitter.clear [] := ⟨rfl, fun _ => rfl⟩

/-- An emission that is accepted keeps the emitter and the log together: the
artifact gets what is new, and the log the whole emission. The other artifacts
keep what they have, on both sides. -/
theorem Agrees.emit {emitter grown : Emitter} {log : List Emission} {files later : Files} {artifact : String}
    {signatures : List Signature} {growth : Growth} (agrees : Agrees emitter log)
    (accepted : emitter.emit files artifact signatures = (.ok (growth, grown), later)) :
    Agrees grown (log ++ [⟨artifact, signatures⟩]) := by
  obtain ⟨_, _, put⟩ := Emitter.emit_ok accepted
  constructor
  · unfold acceptedArtifacts
    rw [put, map_fst_putEntry, agrees.artifacts, List.map_append, List.map_singleton, eraseDups_append_singleton]
    unfold acceptedArtifacts
    simp only [List.mem_eraseDups]
  · intro other
    rw [Emitter.signatures_of_artifacts put, acceptedFor_append_singleton]
    split
    · rename_i same
      rw [same, agrees.signatures, append_freshSignatures]
    · exact agrees.signatures other

/-- Each call keeps them together. A refusal changes neither, and what others
put into the files is no part of either. -/
theorem Agrees.step {id : SinkId} {ledger : Ledger} {emitter : Emitter} (agrees : Agrees emitter ledger.log)
    (kept : ledger.world.sinks.get id = .emitter emitter) (call : EmitterCall) :
    ∃ changed, (ledger.step id call).world.sinks.get id = .emitter changed ∧
      Agrees changed (ledger.step id call).log := by
  unfold Ledger.step
  cases call with
  | emit source artifact signatures =>
    rcases Emitter.handOver kept source artifact signatures with
      ⟨error, outcome, same⟩ | ⟨growth, grown, files, accepted, outcome, changed, _⟩
    · refine ⟨emitter, same, ?_⟩
      unfold EmitterCall.act EmitterCall.account
      rw [outcome]
      exact agrees
    · refine ⟨grown, changed, ?_⟩
      unfold EmitterCall.act EmitterCall.account
      rw [outcome]
      exact agrees.emit accepted
  | clear =>
    refine ⟨emitter.clear, ?_, agrees_clear emitter⟩
    unfold EmitterCall.act
    rw [Act.after, Act.run_sink_bind, kept]
    exact (Store.get_put ..).trans (if_pos rfl)
  | disturb nodes => exact ⟨emitter, kept, agrees⟩

/-- So does any number of calls, one after the other. By induction on the
calls, the first one taken off in each step. -/
theorem Agrees.run {id : SinkId} {ledger : Ledger} {emitter : Emitter} (agrees : Agrees emitter ledger.log)
    (kept : ledger.world.sinks.get id = .emitter emitter) (calls : List EmitterCall) :
    ∃ changed, (ledger.run id calls).world.sinks.get id = .emitter changed ∧
      Agrees changed (ledger.run id calls).log := by
  induction calls generalizing ledger emitter with
  | nil => exact ⟨emitter, kept, agrees⟩
  | cons call rest ih =>
    obtain ⟨changed, held, still⟩ := agrees.step kept call
    exact ih still held

/-- The lists of an emitter, each found under the name of its artifact, are
all that is counted. -/
theorem foldr_length (entries : List (String × List Signature)) (distinct : (entries.map Prod.fst).Nodup) :
    entries.foldr (fun entry count => entry.2.length + count) 0 =
      ((entries.map Prod.fst).map fun name => ((entries.lookup name).getD []).length).sum := by
  induction entries with
  | nil => rfl
  | cons entry rest ih =>
    obtain ⟨name, signatures⟩ := entry
    rw [List.map_cons, List.nodup_cons] at distinct
    have others : ((rest.map Prod.fst).map fun other => ((((name, signatures) :: rest).lookup other).getD []).length) =
        (rest.map Prod.fst).map fun other => ((rest.lookup other).getD []).length := by
      refine List.map_congr_left fun other member => ?_
      have different : other ≠ name := fun same => distinct.1 (same ▸ member)
      rw [lookup_cons_pair, if_neg different]
    rw [List.foldr_cons, List.map_cons, List.map_cons, List.sum_cons, others, ih distinct.2, lookup_cons_pair,
      if_pos rfl]
    rfl

/-- An emitter counts as many directives as its artifacts have together. No
directive is counted twice, since each artifact stands once. -/
theorem Agrees.entryCount {emitter : Emitter} {log : List Emission} (agrees : Agrees emitter log) :
    emitter.entryCount = ((acceptedArtifacts log).map fun artifact => (emitter.directives artifact).length).sum := by
  unfold Emitter.entryCount
  rw [foldr_length _ (agrees.artifacts ▸ nodup_eraseDups _), agrees.artifacts]
  refine congrArg List.sum (List.map_congr_left fun artifact _ => ?_)
  rw [Emitter.directives, List.length_map]
  rfl

end Ledger

theorem Emitter.hasOldest_iff (emitter : Emitter) : emitter.hasOldest = true ↔ 0 < emitter.entryCount := by
  unfold Emitter.hasOldest Emitter.entryCount
  induction emitter.artifacts with
  | nil => simp
  | cons entry rest ih =>
    rw [List.any_cons, Bool.or_eq_true, ih, List.foldr_cons]
    cases entry.2 with
    | nil => simp
    | cons first others =>
      simp only [List.isEmpty_cons, Bool.not_false, true_or, List.length_cons, true_iff]
      omega

/-- An emitter refines the log of the emissions that it has accepted
since it was cleared. -/
theorem emitter_refines_log {world : World} {id : SinkId} {directory : Option Path}
    (new : world.sinks.get id = .emitter { directory := directory }) (calls : List EmitterCall) :
    let ledger := Ledger.run id { world := world } calls
    ∃ emitter, ledger.world.sinks.get id = .emitter emitter ∧
      (∀ artifact, emitter.directives artifact = (acceptedFor ledger.log artifact).eraseDups.map Directive.mk) ∧
      (∀ artifact signature, emitter.isEmitted artifact signature = true ↔
        signature ∈ acceptedFor ledger.log artifact) ∧
      emitter.artifactCount = (acceptedArtifacts ledger.log).length ∧
      emitter.entryCount =
        ((acceptedArtifacts ledger.log).map fun artifact => (emitter.directives artifact).length).sum ∧
      (emitter.hasOldest = true ↔ 0 < emitter.entryCount) ∧
      ∀ source artifact signatures,
        (Act.handOver source id ⟨artifact, signatures⟩).outcome ledger.world = .ok () →
          ∃ grown added total earlier,
            ((Act.handOver source id ⟨artifact, signatures⟩).after ledger.world).sinks.get id = .emitter grown ∧
            ((Act.handOver source id ⟨artifact, signatures⟩).after ledger.world).trace =
              .emitted artifact added total :: earlier ∧
            total = (grown.directives artifact).length ∧
            total = (emitter.directives artifact).length + added := by
  intro ledger
  have empty : Ledger.Agrees { directory := directory } [] := ⟨rfl, fun _ => rfl⟩
  obtain ⟨emitter, kept, agrees⟩ := @Ledger.Agrees.run id { world := world } _ empty new calls
  refine ⟨emitter, kept, ?_, ?_, ?_, agrees.entryCount, emitter.hasOldest_iff, ?_⟩
  · intro artifact
    rw [Emitter.directives, agrees.signatures]
  · intro artifact signature
    rw [Emitter.isEmitted, List.contains_iff_mem, agrees.signatures, List.mem_eraseDups]
  · rw [← agrees.artifacts, List.length_map]
    rfl
  · intro source artifact signatures succeeded
    rcases Emitter.handOver kept source artifact signatures with
      ⟨error, failed, _⟩ | ⟨growth, grown, files, accepted, _, changed, earlier, trace⟩
    · rw [failed] at succeeded
      cases succeeded
    · obtain ⟨added, total, put⟩ := Emitter.emit_ok accepted
      refine ⟨grown, growth.added, growth.total, earlier, changed, trace, ?_, ?_⟩
      · rw [Emitter.directives, List.length_map, Emitter.signatures_of_artifacts put, if_pos rfl, List.length_append,
          total, added]
      · rw [Emitter.directives, List.length_map, total]

namespace Ledger

/-- A world with a new emitter, and nothing else. -/
def fresh : World := { sinks := Store.put {} ⟨1⟩ (.emitter {}) }

/-- Signatures are repeated within an emission and across emissions; one
emission is refused, and one is empty. -/
def repeating : List EmitterCall :=
  [.emit none "app" [⟨"first", []⟩, ⟨"second", []⟩], .emit none " " [⟨"third", []⟩],
    .emit none "app" [⟨"second", []⟩, ⟨"third", []⟩, ⟨"third", []⟩], .emit none "lib" []]

end Ledger

open Ledger in
/-- A signature that is emitted again, or that comes twice in a set, is
counted once; an emission that is refused is not counted at all. -/
theorem emitter_refines_log_repeating :
    let ledger := Ledger.run ⟨1⟩ { world := fresh } repeating
    ∃ emitter, ledger.world.sinks.get ⟨1⟩ = .emitter emitter ∧
      emitter.directives "app" = [⟨⟨"first", []⟩⟩, ⟨⟨"second", []⟩⟩, ⟨⟨"third", []⟩⟩] ∧
      emitter.isEmitted "lib" ⟨"third", []⟩ = false ∧ emitter.artifactCount = 2 ∧ emitter.entryCount = 3 ∧
      emitter.hasOldest = true ∧
      ∃ grown added total earlier,
        ((Act.handOver none ⟨1⟩ ⟨"app", [⟨"third", []⟩, ⟨"fourth", []⟩]⟩).after ledger.world).sinks.get ⟨1⟩ =
          .emitter grown ∧
        ((Act.handOver none ⟨1⟩ ⟨"app", [⟨"third", []⟩, ⟨"fourth", []⟩]⟩).after ledger.world).trace =
          .emitted "app" added total :: earlier ∧
        total = (grown.directives "app").length ∧ total = 3 + added := by
  intro ledger
  obtain ⟨emitter, kept, directives, emitted, artifacts, entries, oldest, counts⟩ :=
    @emitter_refines_log fresh ⟨1⟩ none rfl repeating
  have log : (Ledger.run ⟨1⟩ { world := fresh } repeating).log =
      [⟨"app", [⟨"first", []⟩, ⟨"second", []⟩]⟩, ⟨"app", [⟨"second", []⟩, ⟨"third", []⟩, ⟨"third", []⟩]⟩,
        ⟨"lib", []⟩] := by decide +kernel
  rw [log] at directives emitted artifacts entries
  have app : emitter.directives "app" = [⟨⟨"first", []⟩⟩, ⟨⟨"second", []⟩⟩, ⟨⟨"third", []⟩⟩] :=
    (directives "app").trans (by decide +kernel)
  have lib : emitter.directives "lib" = [] := (directives "lib").trans (by decide +kernel)
  have names : acceptedArtifacts [⟨"app", [⟨"first", []⟩, ⟨"second", []⟩]⟩,
      ⟨"app", [⟨"second", []⟩, ⟨"third", []⟩, ⟨"third", []⟩]⟩, ⟨"lib", []⟩] = ["app", "lib"] := by decide +kernel
  have count : emitter.entryCount = 3 := by
    rw [entries, names, List.map_cons, List.map_singleton, app, lib]
    rfl
  refine ⟨emitter, kept, app, ?_, by rw [artifacts, names]; rfl, count, oldest.mpr (by omega), ?_⟩
  · rw [← Bool.not_eq_true, emitted]
    decide +kernel
  · obtain ⟨grown, added, total, earlier, changed, trace, all, sum⟩ :=
      counts none "app" [⟨"third", []⟩, ⟨"fourth", []⟩] (by decide +kernel)
    rw [app] at sum
    exact ⟨grown, added, total, earlier, changed, trace, all, sum⟩

end CallCapture
