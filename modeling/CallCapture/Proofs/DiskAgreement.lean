import CallCapture.Proofs.EmissionLog
import CallCapture.Proofs.ManifestFiles

namespace CallCapture

/-- To hand over changes the files as the sink does and in no other way; that
it is noted first makes no difference. -/
theorem Act.handOver_files (source : Option HostId) (id : SinkId) (emission : Emission) (world : World) :
    ((handOver source id emission).after world).files = ((world.sinks.get id).emit world.files emission).2 := by
  have asked : ((world.noting (.handedOver source id emission.artifact emission.signatures)).sinks.get id).emit
      (world.noting (.handedOver source id emission.artifact emission.signatures)).files emission =
        (world.sinks.get id).emit world.files emission := rfl
  unfold after handOver
  rw [run_note_bind, run_sink_bind, run_get_bind, asked]
  generalize (world.sinks.get id).emit world.files emission = answer
  obtain ⟨result, files⟩ := answer
  dsimp only
  rw [run_modify_bind, run_orFail_bind]
  cases result with
  | error error => rfl
  | ok grown =>
    obtain ⟨growth, changed⟩ := grown
    dsimp only
    rw [run_setSink_bind]
    cases growth with
    | none => rfl
    | some growth =>
      dsimp only
      split <;> rfl

namespace Emitter

/-- The files behind a call of an emitter are those that the emission leaves,
whether it was accepted or not. -/
theorem handOver_files {emitter : Emitter} {world : World} {id : SinkId} (kept : world.sinks.get id = .emitter emitter)
    (source : Option HostId) (artifact : String) (signatures : List Signature) :
    ((Act.handOver source id ⟨artifact, signatures⟩).after world).files =
      (emitter.emit world.files artifact signatures).2 := by
  rw [Act.handOver_files, kept]
  unfold Sink.emit
  dsimp only
  rcases emitter.emit world.files artifact signatures with ⟨error | grown, files⟩ <;> rfl

/-- A hand-over that ends early was refused by the emitter itself, and the
emitter stays as it was. -/
theorem handOver_refused {emitter : Emitter} {world : World} {id : SinkId} (kept : world.sinks.get id = .emitter emitter)
    {source : Option HostId} {artifact : String} {signatures : List Signature} {halt : Halt}
    (failed : (Act.handOver source id ⟨artifact, signatures⟩).outcome world = .error halt) :
    (∃ error, (emitter.emit world.files artifact signatures).1 = .error error) ∧
      ((Act.handOver source id ⟨artifact, signatures⟩).after world).sinks.get id = .emitter emitter := by
  have answered := Act.handOver_answered source id ⟨artifact, signatures⟩ world
  rw [kept] at answered
  unfold Sink.emit at answered
  dsimp only at answered
  rcases emitted : emitter.emit world.files artifact signatures with ⟨error | ⟨growth, grown⟩, files⟩
  · rw [emitted] at answered
    exact ⟨⟨error, rfl⟩, answered.2⟩
  · rw [emitted] at answered
    rw [answered.1] at failed
    cases failed

variable {emitter grown : Emitter} {files later : Files} {directory : Path} {artifact : String}
  {signatures : List Signature}

/-- A successful emission puts the manifest of all that the emitter then has
on disk. The manifest is written anew as a whole, so that a former one, or
what others put there, is replaced. -/
theorem emit_stored {growth : Growth} (directed : emitter.directory = some directory)
    (accepted : emitter.emit files artifact signatures = (.ok (growth, grown), later)) :
    artifactFault? artifact = none ∧ grown.directory = some directory ∧
      (Manifest.ofDirectives artifact (grown.directives artifact)).write files directory = (.ok (), later) := by
  obtain ⟨_, _, put⟩ := emit_ok accepted
  have all := signatures_of_artifacts put artifact
  rw [if_pos rfl] at all
  rw [directives, all]
  unfold emit at accepted
  split at accepted
  · cases accepted
  · rename_i named
    rw [directed] at accepted
    dsimp only at accepted
    split at accepted
    · cases accepted
    · rename_i written
      cases accepted
      exact ⟨named, rfl, written⟩

/-- A failed emission may leave directories, and nothing else. The directories
were on the way to the manifest, which could then not be written. -/
theorem emit_keeps {error : Error} (failed : emitter.emit files artifact signatures = (.error error, later)) :
    files.Keeps later := by
  unfold emit at failed
  split at failed
  · cases failed
    exact .refl _
  · dsimp only at failed
    split at failed
    · cases failed
    · split at failed
      · rename_i written
        cases failed
        exact Manifest.write_keeps written
      · cases failed

/-- An emission for one artifact leaves the manifests of the others
alone, whether it succeeds or fails. The files of two artifacts differ,
as their names do. -/
theorem emit_others {answer : Except Error (Growth × Emitter)} {manifest : Manifest}
    (directed : emitter.directory = some directory) (stored : OnDisk files directory manifest)
    (different : manifest.artifact ≠ artifact)
    (emitted : emitter.emit files artifact signatures = (answer, later)) : OnDisk later directory manifest := by
  cases answer with
  | error error =>
    have kept := emit_keeps emitted
    exact ⟨kept.node stored.parent, stored.fits.of_top kept.top, kept.node stored.file⟩
  | ok grown =>
    obtain ⟨named, _, written⟩ := emit_stored directed emitted
    obtain ⟨_, top, free, kept⟩ := Manifest.write_stores written named
    exact stored.kept top (fun place => different (manifestPath_injective place)) free kept

end Emitter

namespace Ledger

/-- Whoever else changes files leaves the directory and all that is in it
alone. Whatever happens outside of the directory is allowed. -/
def Respects (id : SinkId) (directory : Path) : Ledger → List EmitterCall → Prop
  | _, [] => True
  | ledger, call :: rest =>
    (∀ nodes, call = .disturb nodes → ∀ path, directory <+: path →
      { ledger.world.files with nodes := nodes }.node? path = ledger.world.files.node? path) ∧
    Respects id directory (ledger.step id call) rest

/-- What an emitter holds is on disk as well: the manifest of an artifact
is there as soon as something was emitted for it. An artifact without
accepted emission has no manifest as far as the emitter knows; there may be
one from elsewhere. -/
structure Mirrors (directory : Path) (emitter : Emitter) (files : Files) (log : List Emission) : Prop where
  directed : emitter.directory = some directory
  named : ∀ artifact ∈ acceptedArtifacts log, artifactFault? artifact = none
  stored : ∀ artifact ∈ acceptedArtifacts log,
    OnDisk files directory (Manifest.ofDirectives artifact (emitter.directives artifact))

namespace Mirrors

variable {directory : Path} {emitter : Emitter} {files later : Files} {log : List Emission}

theorem kept (mirrors : Mirrors directory emitter files log)
    (top : later.topLength = files.topLength)
    (same : ∀ path node, directory <+: path → files.node? path = some node → later.node? path = some node) :
    Mirrors directory emitter later log where
  directed := mirrors.directed
  named := mirrors.named
  stored artifact accepted := by
    obtain ⟨parent, fits, file⟩ := mirrors.stored artifact accepted
    exact ⟨same _ _ (List.prefix_refl _) parent, fits.of_top top, same _ _ (List.prefix_append _ _) file⟩

/-- An emission that is accepted writes the manifest of its own artifact anew,
and leaves the others as they are. The artifact that was emitted for may be
new or known; both come to the same. -/
theorem emit {grown : Emitter} {artifact : String} {signatures : List Signature} {growth : Growth}
    (mirrors : Mirrors directory emitter files log)
    (accepted : emitter.emit files artifact signatures = (.ok (growth, grown), later)) :
    Mirrors directory grown later (log ++ [⟨artifact, signatures⟩]) := by
  obtain ⟨named, directed, written⟩ := Emitter.emit_stored mirrors.directed accepted
  have stored := (Manifest.write_stores written named).1
  have known (other : String) (member : other ∈ acceptedArtifacts (log ++ [⟨artifact, signatures⟩]))
      (different : other ≠ artifact) : other ∈ acceptedArtifacts log := by
    simpa [acceptedArtifacts, different] using member
  refine ⟨directed, fun other member => ?_, fun other member => ?_⟩
  · by_cases same : other = artifact
    · rw [same, named]
    · exact mirrors.named other (known other member same)
  · by_cases same : other = artifact
    · rw [same]
      exact stored
    · obtain ⟨_, _, put⟩ := Emitter.emit_ok accepted
      have unchanged := Emitter.signatures_of_artifacts put other
      rw [if_neg same] at unchanged
      rw [Emitter.directives, unchanged]
      exact Emitter.emit_others mirrors.directed (mirrors.stored other (known other member same)) same accepted

/-- Every call keeps memory and disk together: an emission by what it
writes, a refusal as it changes neither, a clearing as it leaves the files,
and a change elsewhere as it respects the directory. A clearing empties the
memory and leaves the files, so that from there on only what is emitted
again is mirrored. -/
theorem step {id : SinkId} {ledger : Ledger} (mirrors : Mirrors directory emitter ledger.world.files ledger.log)
    (holds : ledger.world.sinks.get id = .emitter emitter) (call : EmitterCall)
    (respected : ∀ nodes, call = .disturb nodes → ∀ path, directory <+: path →
      { ledger.world.files with nodes := nodes }.node? path = ledger.world.files.node? path) :
    ∃ changed, (ledger.step id call).world.sinks.get id = .emitter changed ∧
      Mirrors directory changed (ledger.step id call).world.files (ledger.step id call).log := by
  unfold Ledger.step
  cases call with
  | emit source artifact signatures =>
    unfold EmitterCall.act EmitterCall.account
    dsimp only
    rw [Emitter.handOver_files holds]
    rcases Emitter.handOver holds source artifact signatures with
      ⟨error, outcome, same⟩ | ⟨growth, grown, files, accepted, outcome, changed, _⟩
    · obtain ⟨⟨error, refused⟩, _⟩ := Emitter.handOver_refused holds outcome
      refine ⟨emitter, same, ?_⟩
      rw [outcome]
      have kept := Emitter.emit_keeps (Prod.ext refused rfl)
      exact mirrors.kept kept.top fun path node _ there => kept.node there
    · refine ⟨grown, changed, ?_⟩
      rw [outcome, accepted]
      exact mirrors.emit accepted
  | clear =>
    refine ⟨emitter.clear, ?_, ⟨mirrors.directed, nofun, nofun⟩⟩
    unfold EmitterCall.act
    rw [Act.after, Act.run_sink_bind, holds]
    exact (Store.get_put ..).trans (if_pos rfl)
  | disturb nodes =>
    exact ⟨emitter, holds, mirrors.kept rfl fun path node inside there =>
      (respected nodes rfl path inside).trans there⟩

theorem run {id : SinkId} {ledger : Ledger} (mirrors : Mirrors directory emitter ledger.world.files ledger.log)
    (holds : ledger.world.sinks.get id = .emitter emitter) {calls : List EmitterCall}
    (respected : Respects id directory ledger calls) :
    ∃ changed, (ledger.run id calls).world.sinks.get id = .emitter changed ∧
      Mirrors directory changed (ledger.run id calls).world.files (ledger.run id calls).log := by
  induction calls generalizing ledger emitter with
  | nil => exact ⟨emitter, holds, mirrors⟩
  | cons call rest ih =>
    obtain ⟨now, onward⟩ := respected
    obtain ⟨changed, held, still⟩ := mirrors.step holds call now
    exact ih still held onward

end Mirrors

end Ledger

theorem Manifest.ofDirectives_renders (artifact : String) (directives : List Directive) :
    (ofDirectives artifact directives).directives =
      (ofDirectives artifact directives).signatures.map fun signature => (Directive.mk signature).render := by
  simp only [ofDirectives, List.map_map]
  rfl

/-- What an emitter with a directory has in memory is on disk, whatever
was emitted, refused or cleared before. The manifest of every artifact
that something was emitted for is loaded as the directives that the
emitter has for it. -/
theorem disk_agrees_with_memory {world : World} {id : SinkId} {directory : Path}
    (new : world.sinks.get id = .emitter { directory := some directory }) (calls : List EmitterCall)
    (respected : Ledger.Respects id directory { world := world } calls) :
    let ledger := Ledger.run id { world := world } calls
    ∃ emitter, ledger.world.sinks.get id = .emitter emitter ∧
      ∀ artifact ∈ acceptedArtifacts ledger.log,
        let manifest := Manifest.ofDirectives artifact (emitter.directives artifact)
        Manifest.load ledger.world.files directory artifact = .ok manifest ∧
        manifest.signatures.length = manifest.directives.length ∧
        manifest.directives = (manifest.signatures.map fun signature => (Directive.mk signature).render) ∧
        manifest.signatures.Nodup ∧
        ∀ source other signatures, other ≠ artifact →
          Manifest.load ((Act.handOver source id ⟨other, signatures⟩).after ledger.world).files directory artifact =
            .ok manifest := by
  intro ledger
  have start : Ledger.Mirrors directory { directory := some directory } world.files [] := ⟨rfl, nofun, nofun⟩
  have empty : Ledger.Agrees { directory := some directory } [] := ⟨rfl, fun _ => rfl⟩
  obtain ⟨emitter, holds, mirrors⟩ := @Ledger.Mirrors.run _ _ _ { world := world } start new calls respected
  obtain ⟨same, held, agrees⟩ := @Ledger.Agrees.run id { world := world } _ empty new calls
  obtain rfl : emitter = same := Sink.emitter.inj (holds.symm.trans held)
  refine ⟨emitter, holds, fun artifact accepted => ?_⟩
  intro manifest
  have named := mirrors.named artifact accepted
  have renders : manifest.directives = _ := Manifest.ofDirectives_renders artifact _
  refine ⟨(mirrors.stored artifact accepted).load named, ?_, renders, ?_, ?_⟩
  · rw [renders, List.length_map]
  · have all : manifest.signatures = emitter.signatures artifact := by
      simp only [manifest, Manifest.ofDirectives, Emitter.directives, List.map_map]
      exact List.map_id _
    rw [all, agrees.signatures]
    exact nodup_eraseDups _
  · intro source other signatures different
    rw [Emitter.handOver_files holds]
    exact (Emitter.emit_others mirrors.directed (mirrors.stored artifact accepted) different.symm rfl).load named

namespace Ledger

/-- A world with a new emitter that keeps its manifests in a directory that is
still to be made. -/
def keeping : World := { sinks := Store.put {} ⟨1⟩ (.emitter { directory := some ["out"] }) }

/-- An emission is refused, files change elsewhere, signatures are repeated,
and one emission is empty. -/
def mixed : List EmitterCall :=
  [.emit none "" [⟨"lost", []⟩], .disturb [(["other"], .directory)],
    .emit none "app" [⟨"first", ["A"]⟩, ⟨"first", ["A"]⟩], .emit none "lib" [],
    .emit none "app" [⟨"first", ["A"]⟩, ⟨"second", []⟩]]

end Ledger

open Ledger in
/-- Behind a refused emission, and with other files in between, the
manifest holds what the emitter holds. An emission for another artifact
leaves it as it is. -/
theorem disk_agrees_with_memory_mixed :
    let ledger := Ledger.run ⟨1⟩ { world := keeping } mixed
    Manifest.load ledger.world.files ["out"] "app" =
        .ok ⟨"app", [⟨"first", ["A"]⟩, ⟨"second", []⟩], ["precompile(first, (A))", "precompile(second, ())"]⟩ ∧
      Manifest.load ((Act.handOver none ⟨1⟩ ⟨"lib", [⟨"third", []⟩]⟩).after ledger.world).files ["out"] "app" =
        Manifest.load ledger.world.files ["out"] "app" := by
  intro ledger
  have respected : Respects ⟨1⟩ ["out"] { world := keeping } mixed := by
    refine ⟨nofun, ?_, nofun, nofun, nofun, trivial⟩
    rintro _ same _ ⟨rest, rfl⟩
    cases same
    rfl
  obtain ⟨emitter, holds, agree⟩ := @disk_agrees_with_memory keeping ⟨1⟩ ["out"] rfl mixed respected
  have now : ledger.world.sinks.get ⟨1⟩ = .emitter
      ⟨[("app", [⟨"first", ["A"]⟩, ⟨"second", []⟩]), ("lib", [])], some ["out"]⟩ := by decide +kernel
  obtain rfl := Sink.emitter.inj (holds.symm.trans now)
  have manifest : Manifest.ofDirectives "app" [⟨⟨"first", ["A"]⟩⟩, ⟨⟨"second", []⟩⟩] =
      ⟨"app", [⟨"first", ["A"]⟩, ⟨"second", []⟩], ["precompile(first, (A))", "precompile(second, ())"]⟩ := by
    decide +kernel
  obtain ⟨loaded, _, _, _, others⟩ := agree "app" (by decide +kernel)
  exact ⟨loaded.trans (congrArg Except.ok manifest), (others none "lib" _ (by decide)).trans loaded.symm⟩

end CallCapture
