import CallCapture.Entries
import CallCapture.Manifest.Store
import CallCapture.Text.Blank

namespace CallCapture

/-- The directives of each artifact in the order of their emission,
a signature once for each artifact, and the directory of the
manifests, if there is one. -/
structure Emitter where
  artifacts : List (String × List Signature) := []
  directory : Option Path := none
  deriving DecidableEq, Inhabited

/-- An artifact is named by a text that is not blank and is no path, so that
its manifest lies directly in the directory of the manifests. -/
def artifactFault? (artifact : String) : Option EmissionFault :=
  let name := artifact.toList
  if isBlankText name then some .emptyArtifact
  else if name.contains '/' ∨ name.contains '\\' ∨ artifact = "." ∨ artifact = ".." then some .pathArtifact
  else none

/-- The signatures that are not in `known`, each once, in the order of their
first occurrence. -/
def freshSignatures (known : List Signature) : List Signature → List Signature
  | [] => []
  | signature :: rest =>
    if known.contains signature then freshSignatures known rest
    else signature :: freshSignatures (signature :: known) rest

/-- What an emission added, and how many directives the artifact has now. An
emission may add nothing and still succeed. -/
structure Growth where
  added : Nat
  total : Nat
  deriving DecidableEq, Inhabited

namespace Emitter

/-- What has been emitted for an artifact; nothing if it was never emitted
for. They are kept in the order in which they were first accepted. -/
def signatures (emitter : Emitter) (artifact : String) : List Signature :=
  (emitter.artifacts.lookup artifact).getD []

/-- The directives of an artifact, one for each signature, in the order
of their emission. -/
def directives (emitter : Emitter) (artifact : String) : List Directive :=
  (emitter.signatures artifact).map Directive.mk

/-- Whether a signature has been emitted for an artifact since the emitter
was last cleared. -/
def isEmitted (emitter : Emitter) (artifact : String) (signature : Signature) : Bool :=
  (emitter.signatures artifact).contains signature

/-- Forgets every artifact. The directory stays, and what is in it
is not touched. The next emission for an artifact starts it over, as
the first one did. -/
def clear (emitter : Emitter) : Emitter := { emitter with artifacts := [] }

/-- How many artifacts have been emitted for, those with no directives
included. An artifact stays counted until everything is forgotten. -/
def artifactCount (emitter : Emitter) : Nat := emitter.artifacts.length

/-- How many directives all artifacts have together; a signature counts once
for each artifact that has it. -/
def entryCount (emitter : Emitter) : Nat :=
  emitter.artifacts.foldr (fun entry count => entry.2.length + count) 0

/-- One of the directives is the oldest, unless no artifact has any. An
artifact for which an empty set was emitted has none to give. -/
def hasOldest (emitter : Emitter) : Bool := emitter.artifacts.any fun entry => !entry.2.isEmpty

/-- Adds the new ones of `signatures` to an artifact. The manifest, if there
is to be one, is written first, and nothing is added when that fails. -/
def emit (emitter : Emitter) (files : Files) (artifact : String) (signatures : List Signature) :
    Except Error (Growth × Emitter) × Files :=
  match artifactFault? artifact with
  | some fault => (.error (.emission artifact fault), files)
  | none =>
    let known := emitter.signatures artifact
    let fresh := freshSignatures known signatures
    let all := known ++ fresh
    let grown := { emitter with artifacts := putEntry emitter.artifacts artifact all }
    match emitter.directory with
    | none => (.ok (⟨fresh.length, all.length⟩, grown), files)
    | some directory =>
      match (Manifest.ofDirectives artifact (all.map Directive.mk)).write files directory with
      | (.error fault, files) => (.error (.file fault), files)
      | (.ok _, files) => (.ok (⟨fresh.length, all.length⟩, grown), files)

end Emitter

/-- One set of signatures that was handed over, with the artifact that it is
for. The signatures keep the order in which they were handed over. -/
structure Emission where
  artifact : String
  signatures : List Signature
  deriving DecidableEq, Inhabited

/-- Where captured signatures go: into memory, nowhere, or to an emitter. What
a sink refuses is lost to it. -/
inductive Sink where
  | recording (emissions : List Emission)
  | rejecting (message : String)
  | emitter (store : Emitter)
  deriving DecidableEq, Inhabited

/-- Hands a set over. An emitter says by how much it grew; a sink that only
records takes everything as it comes, repeated signatures included. -/
def Sink.emit (sink : Sink) (files : Files) (emission : Emission) :
    Except Error (Option Growth × Sink) × Files :=
  match sink with
  | recording emissions => (.ok (none, .recording (emissions ++ [emission])), files)
  | rejecting message => (.error (.emission emission.artifact (.rejected message)), files)
  | .emitter store =>
    match store.emit files emission.artifact emission.signatures with
    | (.error fault, files) => (.error fault, files)
    | (.ok (growth, store), files) => (.ok (some growth, .emitter store), files)

end CallCapture
