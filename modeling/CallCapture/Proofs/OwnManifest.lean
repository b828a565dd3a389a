import CallCapture.Proofs.FailedEmission

namespace CallCapture

open Files

/-- A path has become a directory that was missing on the way to `directory`.
It may be the directory of the manifests itself. -/
structure MadeOnTheWay (files later : Files) (directory path : Path) : Prop where
  onTheWay : path <+: directory
  missing : files.node? path = none
  made : later.node? path = some .directory

/-- A path has become the file of the manifest of an artifact, which lies
directly in the directory. It was no directory before, and it is a file
behind the emission. -/
structure WrittenInto (files later : Files) (directory : Path) (artifact : String) (path : Path) : Prop where
  place : path = directory ++ [artifact ++ manifestSuffix]
  plain : IsPlain (artifact ++ manifestSuffix)
  free : files.node? path ≠ some .directory
  file : ∃ text, later.node? path = some (.file (.text text))

/-- Every path that has changed is one of these. Other manifests in the same
directory are not among them, nor is anything outside of it. -/
def TouchesOwn (files later : Files) (directory : Path) (artifact : String) : Prop :=
  ∀ path, later.node? path ≠ files.node? path →
    MadeOnTheWay files later directory path ∨ WrittenInto files later directory artifact path

theorem TouchesOwn.refl (files : Files) (directory : Path) (artifact : String) :
    TouchesOwn files files directory artifact := fun _ changed => absurd rfl changed

/-- Whatever the making of directories changes is a directory on the way
that was missing. -/
theorem madeOnTheWay_of_changed {files later : Files} {directory path : Path}
    (made : files.makeDirectories [] directory = .ok later) (changed : later.node? path ≠ files.node? path) :
    MadeOnTheWay files later directory path := by
  obtain ⟨before, missing, now⟩ := makeDirectories_changes made changed
  exact ⟨before, missing, now⟩

/-- A manifest is written, or the writing fails behind the directories or
before them. In the second case only directories have been made. -/
theorem Manifest.write_touchesOwn {manifest : Manifest} (accepted : artifactFault? manifest.artifact = none)
    (files : Files) (directory : Path) :
    TouchesOwn files (manifest.write files directory).2 directory manifest.artifact := by
  have plain := manifestFileName_plain accepted
  unfold Manifest.write
  cases directories : files.makeDirectories [] directory with
  | error fault => exact TouchesOwn.refl files directory manifest.artifact
  | ok made =>
    dsimp only
    cases written : made.write directory (manifestFileName manifest.artifact) (.text manifest.fileText) with
    | error fault => exact fun path changed => .inl (madeOnTheWay_of_changed directories changed)
    | ok later =>
      obtain ⟨_, _, free, rfl⟩ := (write_plain plain).mp written
      intro path changed
      by_cases own : path = directory ++ [manifestFileName manifest.artifact]
      · subst own
        have kept := (makeDirectories_ok directories (start_directory files)).1
        exact .inr ⟨rfl, plain, fun taken => free (kept.node taken), _, node?_put_self free _⟩
      · have other := @node?_put_of_ne made _ _ own (.file (.text manifest.fileText))
        dsimp only at changed
        rw [other] at changed
        obtain ⟨before, missing, now⟩ := madeOnTheWay_of_changed directories changed
        exact .inl ⟨before, missing, other.trans now⟩

/-- An emission touches nothing but its own manifest and the way to it,
whether it is accepted or fails. A refused artifact is not even looked for. -/
theorem Emitter.emit_touchesOwn {emitter : Emitter} {directory : Path} (directed : emitter.directory = some directory)
    (files : Files) (artifact : String) (signatures : List Signature) :
    TouchesOwn files (emitter.emit files artifact signatures).2 directory artifact := by
  unfold emit
  cases named : artifactFault? artifact with
  | some fault => exact TouchesOwn.refl files directory artifact
  | none =>
    rw [directed]
    dsimp only
    let all := emitter.signatures artifact ++ freshSignatures (emitter.signatures artifact) signatures
    let manifest := Manifest.ofDirectives artifact (all.map Directive.mk)
    have touches := @Manifest.write_touchesOwn manifest named files directory
    rcases written : manifest.write files directory with ⟨fault | _, later⟩
    · rw [written] at touches
      exact touches
    · rw [written] at touches
      exact touches

theorem Emitter.emit_emission_iff (emitter : Emitter) (files : Files) (artifact : String) (signatures : List Signature)
    (named : String) (fault : EmissionFault) :
    (emitter.emit files artifact signatures).1 = .error (.emission named fault) ↔
      artifact = named ∧ artifactFault? artifact = some fault := by
  unfold emit
  cases artifactFault? artifact with
  | some found => simp
  | none =>
    dsimp only
    split
    · simp
    · split <;> simp

/-- The error that a hand-over ends with is the error of the emitter, and it
has one whenever the emitter does. -/
theorem Emitter.handOver_error_iff {emitter : Emitter} {world : World} {id : SinkId}
    (kept : world.sinks.get id = .emitter emitter) (source : Option HostId) (artifact : String)
    (signatures : List Signature) (error : Error) :
    (Act.handOver source id ⟨artifact, signatures⟩).outcome world = .error (.error error) ↔
      (emitter.emit world.files artifact signatures).1 = .error error := by
  have answered := Act.handOver_answered source id ⟨artifact, signatures⟩ world
  rw [kept] at answered
  unfold Sink.emit at answered
  dsimp only at answered
  rcases emitted : emitter.emit world.files artifact signatures with ⟨fault | ⟨growth, grown⟩, files⟩
  · rw [emitted] at answered
    rw [answered.1]
    simp
  · rw [emitted] at answered
    rw [answered.1]
    simp

/-- An emission changes no path but the missing directories on the way to the
manifests, which are made, and the manifest of its artifact, which lies
directly in them. Nothing at all is touched for an artifact that is refused,
and no two others share a manifest. -/
theorem emission_touches_own_manifest {world : World} {id : SinkId} {emitter : Emitter} {directory : Path}
    (kept : world.sinks.get id = .emitter emitter) (directed : emitter.directory = some directory)
    (source : Option HostId) (artifact : String) (signatures : List Signature) :
    let emission := Act.handOver source id ⟨artifact, signatures⟩
    TouchesOwn world.files (emission.after world).files directory artifact ∧
      (∀ fault, emission.outcome world = .error (.error (.emission artifact fault)) ↔
        artifactFault? artifact = some fault) ∧
      (∀ named fault, emission.outcome world = .error (.error (.emission named fault)) →
        (emission.after world).files = world.files) ∧
      ∀ other, artifactFault? artifact = none → artifactFault? other = none → ∀ (files later : Files) path,
        files.locate directory (manifestFileName artifact) = .ok path →
          later.locate directory (manifestFileName other) = .ok path → artifact = other := by
  intro emission
  have left : (emission.after world).files = (emitter.emit world.files artifact signatures).2 :=
    Emitter.handOver_files kept source artifact signatures
  have refused (named : String) (fault : EmissionFault) :
      emission.outcome world = .error (.error (.emission named fault)) ↔
        artifact = named ∧ artifactFault? artifact = some fault :=
    (Emitter.handOver_error_iff kept source artifact signatures _).trans
      (Emitter.emit_emission_iff emitter world.files artifact signatures named fault)
  refine ⟨?_, fun fault => ?_, fun named fault failed => ?_, ?_⟩
  · rw [left]
    exact Emitter.emit_touchesOwn directed world.files artifact signatures
  · rw [refused, eq_self_iff_true, true_and]
  · obtain ⟨_, found⟩ := (refused named fault).mp failed
    rw [left, Emitter.emit, found]
  · intro other accepted also files later path leads leadsToo
    obtain ⟨_, _, here⟩ := (locate_plain (manifestFileName_plain accepted)).mp leads
    obtain ⟨_, _, there⟩ := (locate_plain (manifestFileName_plain also)).mp leadsToo
    exact manifestPath_injective (here.trans there.symm)

open Ledger in
/-- An artifact may begin with a blank and end in dots. One that leads
elsewhere is refused. -/
theorem emission_touches_own_manifest_keeping :
    let emission : String → Act Unit := fun artifact => Act.handOver none ⟨1⟩ ⟨artifact, [⟨"f", []⟩]⟩
    let later := ((emission " ..").after keeping).files
    TouchesOwn keeping.files later ["out"] " .." ∧
      later.node? ["out", " ...directives.json"] ≠ keeping.files.node? ["out", " ...directives.json"] ∧
      (emission "../up").outcome keeping = .error (.error (.emission "../up" .pathArtifact)) ∧
      ((emission "../up").after keeping).files = keeping.files ∧
      ∀ (files : Files) path, files.locate ["out"] (manifestFileName "...") = .ok path →
        path ≠ ["out", " ...directives.json"] := by
  intro emission later
  have own := @emission_touches_own_manifest keeping ⟨1⟩ _ ["out"] rfl rfl none " .." [⟨"f", []⟩]
  have up := @emission_touches_own_manifest keeping ⟨1⟩ _ ["out"] rfl rfl none "../up" [⟨"f", []⟩]
  have refused := (up.2.1 .pathArtifact).mpr (by decide +kernel)
  refine ⟨own.1, by decide +kernel, refused, up.2.2.1 _ _ refused, ?_⟩
  rintro files path leads rfl
  have same := own.2.2.2 "..." (by decide +kernel) (by decide +kernel) later files _ (by decide +kernel) leads
  exact absurd same (by decide)

end CallCapture
