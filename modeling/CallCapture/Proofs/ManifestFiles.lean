import CallCapture.Emitter
import CallCapture.Proofs.FileTree
import CallCapture.Proofs.JsonRoundTrip

namespace CallCapture

open Files

namespace Manifest

theorem ofText_fileText (manifest : Manifest) : ofText manifest.fileText = .ok manifest := by
  have read : reader.run manifest.fileText = .ok manifest := (undoes.runs manifest).2
  rw [ofText, read]
  rfl

/-- A manifest is written in two steps: its directories are made, and its text
goes into the file. Where the second one fails, the directories stay. -/
theorem write_eq_ok {manifest : Manifest} {files later : Files} {directory : Path} :
    manifest.write files directory = (.ok (), later) ↔
      ∃ made, files.makeDirectories [] directory = .ok made ∧
        made.write directory (manifestFileName manifest.artifact) (.text manifest.fileText) = .ok later := by
  unfold write
  cases made : files.makeDirectories [] directory with
  | error fault => simp
  | ok middle =>
    cases written : middle.write directory (manifestFileName manifest.artifact) (.text manifest.fileText) with
    | error fault => simp [written]
    | ok last => simp [written]

/-- A manifest that was written is loaded, whatever its artifact is called.
For an artifact whose name has slashes in it the file lies elsewhere, and is
found there again. -/
theorem load_write {manifest : Manifest} {files later : Files} {directory : Path}
    (written : manifest.write files directory = (.ok (), later)) :
    load later directory manifest.artifact = .ok manifest := by
  obtain ⟨made, _, put⟩ := write_eq_ok.mp written
  have found := (read_write put).1
  simp only [load, found, Except.mapError, bind, Except.bind]
  exact ofText_fileText manifest

end Manifest

/-- The file of an artifact that can be emitted for lies directly in the
directory. Its name has neither a slash in it nor does it stand for a
directory. The suffix keeps it from being a dot or two. -/
theorem manifestFileName_plain {artifact : String} (accepted : artifactFault? artifact = none) :
    IsPlain (manifestFileName artifact) := by
  have shape : (manifestFileName artifact).toList = artifact.toList ++ manifestSuffix.toList := String.toList_append
  have long : 16 ≤ (manifestFileName artifact).toList.length := by
    rw [shape, List.length_append]
    exact Nat.le_add_left _ _
  constructor
  · rw [shape, List.mem_append]
    rintro (slash | slash)
    · unfold artifactFault? at accepted
      dsimp only at accepted
      split at accepted
      · cases accepted
      · simp [slash] at accepted
    · exact absurd slash (by decide)
  · have other (short : String) (few : short.toList.length < 16) : manifestFileName artifact ≠ short :=
      fun same => absurd (same ▸ long) (Nat.not_le.mpr few)
    simp [isUnnamed, other "" (by decide), other "." (by decide), other ".." (by decide)]

/-- Artifacts with different names have different files, as all
of these end alike. -/
theorem manifestFileName_injective {artifact other : String}
    (same : manifestFileName artifact = manifestFileName other) : artifact = other := by
  have lists := congrArg String.toList same
  unfold manifestFileName at lists
  rw [String.toList_append, String.toList_append] at lists
  exact String.toList_injective (List.append_cancel_right lists)

/-- Where the manifest of an artifact is. It lies in the directory as long as
the name of the artifact has no slash in it. -/
def manifestPath (directory : Path) (artifact : String) : Path := directory ++ [manifestFileName artifact]

theorem manifestPath_injective {directory : Path} {artifact other : String}
    (same : manifestPath directory artifact = manifestPath directory other) : artifact = other :=
  manifestFileName_injective (List.singleton_inj.mp (List.append_cancel_left same))

theorem manifestPath_ne (directory : Path) (artifact : String) : manifestPath directory artifact ≠ directory := by
  intro same
  have lengths := congrArg List.length same
  rw [manifestPath, List.length_append, List.length_singleton] at lengths
  omega

/-- Nothing keeps the manifest of an artifact from being written: no file
stands where one of its directories is wanted, no directory where it is wanted
itself, and no limit is exceeded. It is told from the files alone, before
anything is tried. -/
structure Unobstructed (files : Files) (directory : Path) (artifact : String) : Prop where
  passable : files.Passable [] directory
  free : files.node? (manifestPath directory artifact) ≠ some .directory
  fits : files.Fits directory (manifestFileName artifact)

/-- The manifest is on disk, at its place. The directory is asked for as well,
as nothing is found below a file. -/
structure OnDisk (files : Files) (directory : Path) (manifest : Manifest) : Prop where
  parent : files.node? directory = some .directory
  fits : files.Fits directory (manifestFileName manifest.artifact)
  file : files.node? (manifestPath directory manifest.artifact) = some (.file (.text manifest.fileText))

theorem OnDisk.load {files : Files} {directory : Path} {manifest : Manifest} (stored : OnDisk files directory manifest)
    (accepted : artifactFault? manifest.artifact = none) :
    Manifest.load files directory manifest.artifact = .ok manifest := by
  have found := read_plain (manifestFileName_plain accepted) stored.parent stored.fits stored.file
  simp only [Manifest.load, found, Except.mapError, bind, Except.bind]
  exact manifest.ofText_fileText

/-- A manifest stays on disk as long as its place and its directory are kept.
A writing for another artifact keeps both. -/
theorem OnDisk.kept {files later : Files} {directory : Path} {manifest : Manifest}
    (stored : OnDisk files directory manifest) (top : later.topLength = files.topLength) {written : Path}
    (elsewhere : manifestPath directory manifest.artifact ≠ written) (free : files.node? written ≠ some .directory)
    (kept : ∀ path node, path ≠ written → files.node? path = some node → later.node? path = some node) :
    OnDisk later directory manifest where
  parent := kept directory .directory (fun same => free (same ▸ stored.parent)) stored.parent
  fits := stored.fits.of_top top
  file := kept _ _ elsewhere stored.file

theorem start_directory (files : Files) : files.node? [] = some .directory := rfl

namespace Manifest

variable {manifest : Manifest} {files later : Files} {directory : Path}

/-- What a writing leaves: the manifest in its place, directories on the
way to it, and all else as it was. Nothing but missing directories and this
file has changed. -/
theorem write_stores (written : manifest.write files directory = (.ok (), later))
    (accepted : artifactFault? manifest.artifact = none) :
    OnDisk later directory manifest ∧ later.topLength = files.topLength ∧
      files.node? (manifestPath directory manifest.artifact) ≠ some .directory ∧
      ∀ path node, path ≠ manifestPath directory manifest.artifact → files.node? path = some node →
        later.node? path = some node := by
  obtain ⟨made, directories, put⟩ := write_eq_ok.mp written
  obtain ⟨kept, _⟩ := makeDirectories_ok directories (start_directory files)
  obtain ⟨there, fits, free, rfl⟩ := (write_plain (manifestFileName_plain accepted)).mp put
  have different := (manifestPath_ne directory manifest.artifact).symm
  refine ⟨⟨?_, fits.of_top rfl, node?_put_self free _⟩, kept.top, fun taken => free (kept.node taken),
    fun path node elsewhere found => ?_⟩
  · exact (node?_put_of_ne different _).trans there
  · exact (node?_put_of_ne elsewhere _).trans (kept.node found)

/-- A write that fails keeps all files that were there. Directories may have
been made before it failed, and nothing else. -/
theorem write_keeps {fault : FileFault} (failed : manifest.write files directory = (.error fault, later)) :
    files.Keeps later := by
  unfold write at failed
  cases directories : files.makeDirectories [] directory with
  | error fault =>
    rw [directories] at failed
    cases failed
    exact .refl _
  | ok made =>
    rw [directories] at failed
    have kept := (makeDirectories_ok directories (start_directory files)).1
    cases put : made.write directory (manifestFileName manifest.artifact) (.text manifest.fileText) with
    | error fault =>
      simp only [put] at failed
      cases failed
      exact kept
    | ok last =>
      simp only [put] at failed
      cases failed

/-- A manifest is written just if nothing keeps it from that. What stands in
it has no part in this. The directories can be made, the name fits, and no
directory has it. -/
theorem write_ok_iff (accepted : artifactFault? manifest.artifact = none) :
    (∃ later, manifest.write files directory = (.ok (), later)) ↔
      Unobstructed files directory manifest.artifact := by
  have plain := manifestFileName_plain accepted
  constructor
  · rintro ⟨later, written⟩
    obtain ⟨made, directories, put⟩ := write_eq_ok.mp written
    obtain ⟨_, fits, _⟩ := (write_plain plain).mp put
    have top := (makeDirectories_ok directories (start_directory files)).1.top
    exact ⟨(makeDirectories_ok_iff (start_directory files)).mp ⟨made, directories⟩,
      (write_stores written accepted).2.2.1, fits.of_top top.symm⟩
  · rintro ⟨passable, free, fits⟩
    obtain ⟨made, directories⟩ := (makeDirectories_ok_iff (start_directory files)).mpr passable
    obtain ⟨kept, there⟩ := makeDirectories_ok directories (start_directory files)
    have below : ([] : Path).length + directory.length < (manifestPath directory manifest.artifact).length := by
      simp only [manifestPath, List.length_append, List.length_cons, List.length_nil]
      omega
    rw [← makeDirectories_below directories below] at free
    exact ⟨_, write_eq_ok.mpr ⟨made, directories, (write_plain plain).mpr ⟨there, fits.of_top kept.top, free, rfl⟩⟩⟩

end Manifest

/-- Whatever is persisted is read back from either layout, and a manifest from
the file that it was written to. -/
theorem json_decodes_encoded :
    (∀ signature : Signature, Signature.reader.run signature.toTree.compactText = .ok signature ∧
      Signature.reader.run signature.toTree.prettyText = .ok signature) ∧
    (∀ directive : Directive, Directive.reader.run directive.toTree.compactText = .ok directive ∧
      Directive.reader.run directive.toTree.prettyText = .ok directive) ∧
    (∀ manifest : Manifest, Manifest.reader.run manifest.toTree.compactText = .ok manifest ∧
      Manifest.reader.run manifest.toTree.prettyText = .ok manifest) ∧
    ∀ (manifest : Manifest) (files later : Files) (directory : Path),
      manifest.write files directory = (.ok (), later) →
        Manifest.load later directory manifest.artifact = .ok manifest :=
  ⟨Signature.undoes.runs, Directive.undoes.runs, Manifest.undoes.runs, fun _ _ _ _ => Manifest.load_write⟩

namespace Manifest

/-- Quotes, backslashes, control characters, characters beyond the basic
plane, and empty lists. -/
def awkward : Manifest where
  artifact := "café \"😀\""
  signatures := [⟨"a\\b\n", []⟩, ⟨"", ["\x00", "\u2028\t"]⟩]
  directives := ["precompile(\x1f)", ""]

end Manifest

open Manifest in
theorem json_decodes_encoded_awkward : ∃ later, awkward.write {} ["out"] = (.ok (), later) ∧
    Manifest.load later ["out"] "café \"😀\"" = .ok awkward := by
  have unobstructed : Unobstructed {} ["out"] awkward.artifact := by
    refine ⟨(makeDirectories_ok_iff (start_directory {})).mp ⟨_, rfl⟩, by decide +kernel, ?_⟩
    exact ⟨by decide +kernel, by decide +kernel, by decide +kernel⟩
  obtain ⟨later, written⟩ := (write_ok_iff (by decide +kernel)).mpr unobstructed
  exact ⟨later, written, json_decodes_encoded.2.2.2 awkward {} later ["out"] written⟩

end CallCapture
