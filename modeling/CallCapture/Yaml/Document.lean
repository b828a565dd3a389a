import CallCapture.Yaml.Event

namespace CallCapture.Yaml

namespace Document

/-- A step of the walk over a document's nodes. A collection has one item at
its start and one at its end; an alias refers to an anchor by a number. -/
inductive Item where
  | alias (anchor : Nat)
  | scalar (tag : Option String) (text : String) (style : Style)
  | sequenceStart
  | sequenceEnd
  | mappingStart
  | mappingEnd
  | void
  deriving DecidableEq, Inhabited

end Document

/-- The first document of a stream, as a walk over its nodes. `targets` says
where the node of an anchor starts. A document is whole if it could be read to
its end and no other document follows. -/
structure Document where
  items : List (Document.Item × Mark) := []
  targets : List (Nat × Nat) := []
  whole : Bool := false
  deriving DecidableEq, Inhabited

namespace Document

/-- A document that is being put together, last item first, with the names of
the anchors so far. -/
structure Partial where
  items : List (Item × Mark) := []
  anchors : List (String × Nat) := []
  targets : List (Nat × Nat) := []
  deriving DecidableEq, Inhabited

namespace Partial

/-- An anchor is numbered by how many names there are before it. A name that
is used again stands for the later node. -/
def bind (document : Partial) (anchor : Option String) : Partial :=
  match anchor with
  | none => document
  | some name =>
    let number := document.anchors.length
    { document with
      anchors := (name, number) :: document.anchors.filter (·.1 ≠ name)
      targets := (number, document.items.length) :: document.targets.filter (·.1 ≠ number) }

/-- One more item. The newest item stands first until the
document is closed. -/
def add (document : Partial) (item : Item) (mark : Mark) : Partial :=
  { document with items := (item, mark) :: document.items }

/-- The document once nothing is added any more. Whether it is whole tells if
the events went on to its end. -/
def close (document : Partial) (whole : Bool) : Document where
  items := document.items.reverse
  targets := document.targets
  whole := whole

end Partial

/-- Collects the events of the first document. An alias without its anchor
ends the reading, and so does a second document. -/
def collect : List (Event × Mark) → Partial → Document
  | [], document => document.close false
  | (event, mark) :: events, document =>
    match event with
    | .streamStart | .documentStart => collect events document
    | .streamEnd => (if document.items = [] then document.add .void mark else document).close true
    | .documentEnd => document.close (events.head?.any fun next => next.1 == .streamEnd)
    | .alias name =>
      match document.anchors.lookup name with
      | none => document.close false
      | some number => collect events (document.add (.alias number) mark)
    | .scalar properties text style =>
      collect events ((document.bind properties.anchor).add (.scalar properties.tag text style) mark)
    | .sequenceStart properties =>
      collect events ((document.bind properties.anchor).add .sequenceStart mark)
    | .sequenceEnd => collect events (document.add .sequenceEnd mark)
    | .mappingStart properties =>
      collect events ((document.bind properties.anchor).add .mappingStart mark)
    | .mappingEnd => collect events (document.add .mappingEnd mark)

/-- The first document of a stream of events. What follows that document in
the stream is not looked at. -/
def ofEvents (events : List (Event × Mark)) : Document := collect events {}

/-- The first document of a text. Its tokens, its events and its items are
found one after the other. -/
def ofString (text : String) : Document := ofEvents (Event.ofTokens (Token.ofString text))

end Document

end CallCapture.Yaml
