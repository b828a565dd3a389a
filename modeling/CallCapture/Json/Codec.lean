import CallCapture.Json.Record
import CallCapture.Json.Tree
import CallCapture.Manifest

namespace CallCapture

namespace Signature

/-- A signature as it is written: an object of the routine and the types of
its arguments, in this order. -/
def toTree (signature : Signature) : Json.Tree :=
  .object [
    ("routine", .text signature.routine),
    ("arg_types", .list (signature.argTypes.map .text))]

/-- A signature whose fields have been read so far, in whatever
order they stand. -/
structure Draft where
  routine : Option String := none
  argTypes : Option (List String) := none

/-- How a signature is read: both fields have to be there, and nothing is
assumed for a missing one. -/
def layout : Json.Layout Draft Signature where
  name := "CallSignature"
  fields := [
    { name := "routine"
      isSet := fun draft => draft.routine.isSome
      read := fun draft => do return { draft with routine := some (← Json.Reader.text) } },
    { name := "arg_types"
      isSet := fun draft => draft.argTypes.isSome
      read := fun draft => do
        return { draft with argTypes := some (← Json.Reader.list Json.Reader.text) } }]
  blank := {}
  finish draft := do return ⟨← draft.routine, ← draft.argTypes⟩

/-- Reads a signature off the front of a text. It takes the object that
`toTree` describes, and the list of the two fields as well. -/
def reader : Json.Reader Signature := Json.Reader.record layout

end Signature

namespace Directive

/-- A directive as it is written: an object that holds its signature
and nothing else. -/
def toTree (directive : Directive) : Json.Tree :=
  .object [("signature", directive.signature.toTree)]

/-- How a directive is read. Its only field is its draft at the same time. A
directive without its signature is no directive. -/
def layout : Json.Layout (Option Signature) Directive where
  name := "Directive"
  fields := [
    { name := "signature"
      isSet := Option.isSome
      read := fun _ => do return some (← Signature.reader) }]
  blank := none
  finish draft := draft.map Directive.mk

/-- Reads a directive off the front of a text. The signature in it is read by
the reader of signatures. -/
def reader : Json.Reader Directive := Json.Reader.record layout

end Directive

namespace Manifest

/-- A manifest as it is written: the artifact, the signatures and their
lines, in this order. -/
def toTree (manifest : Manifest) : Json.Tree :=
  .object [
    ("artifact", .text manifest.artifact),
    ("signatures", .list (manifest.signatures.map Signature.toTree)),
    ("directives", .list (manifest.directives.map .text))]

/-- A manifest whose fields have been read so far, in whatever
order they stand. -/
structure Draft where
  artifact : Option String := none
  signatures : Option (List Signature) := none
  directives : Option (List String) := none

/-- How a manifest is read. The two lists are read as they are; nothing
checks that they agree. -/
def layout : Json.Layout Draft Manifest where
  name := "Manifest"
  fields := [
    { name := "artifact"
      isSet := fun draft => draft.artifact.isSome
      read := fun draft => do return { draft with artifact := some (← Json.Reader.text) } },
    { name := "signatures"
      isSet := fun draft => draft.signatures.isSome
      read := fun draft => do
        return { draft with signatures := some (← Json.Reader.list Signature.reader) } },
    { name := "directives"
      isSet := fun draft => draft.directives.isSome
      read := fun draft => do
        return { draft with directives := some (← Json.Reader.list Json.Reader.text) } }]
  blank := {}
  finish draft := do return ⟨← draft.artifact, ← draft.signatures, ← draft.directives⟩

/-- Reads a manifest off the front of a text. Whether the lines belong to the
signatures is not its concern. -/
def reader : Json.Reader Manifest := Json.Reader.record layout

end Manifest

namespace Json

/-- The text of a tree on one line, without any space. Values that are kept in
memory or sent on their own are written so. -/
def Tree.compactText (tree : Tree) : String := String.ofList tree.compact

/-- The text of a tree with a line for each item, as files hold it. A file
that is written so can be compared line by line. -/
def Tree.prettyText (tree : Tree) : String := String.ofList (tree.pretty 0)

end Json

end CallCapture
