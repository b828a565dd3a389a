import CallCapture.Preferences
import CallCapture.Yaml.Document
import CallCapture.Yaml.Untagged

namespace CallCapture.Yaml

/-- What is left of the walk over the document, and how many aliases
have been followed. -/
structure Decoding where
  rest : List (Document.Item × Mark)
  jumps : Nat := 0
  deriving Inhabited

/-- A reader of nodes takes a value off the front of the walk or says
what does not fit. -/
abbrev Decode := ReaderT Document (StateT Decoding (Except Fault))

namespace Decode

variable {α : Type}

/-- Fails with a node that is not what the preferences need. The path names
the fields that lead to the node, and the mark is where the node starts. -/
def misfit (problem : Problem) (path : List String) (mark : Mark) : Decode α :=
  throw (.misfit problem path mark)

/-- Fails with a document that cannot be read. Such a document has no path and
no place that could be named. -/
def malformed : Decode α := throw .malformed

/-- The next item, which stays where it is. The walk ends only where the
document could not be read further. -/
def peek : Decode (Document.Item × Mark) := do
  match (← get).rest with
  | [] => malformed
  | item :: _ => return item

/-- Takes the next item. It is gone for the readers behind, unless an alias
leads back to it. -/
def next : Decode (Document.Item × Mark) := do
  let item ← peek
  modify fun decoding => { decoding with rest := decoding.rest.drop 1 }
  return item

/-- Goes on at the node of an anchor. Only so many aliases may be followed in
all, which keeps nodes that repeat each other from being read for ever. -/
def jump (anchor : Nat) : Decode Unit := do
  let document ← read
  let jumps := (← get).jumps + 1
  if jumps > 100 * document.items.length then malformed
  else
    match document.targets.lookup anchor with
    | none => malformed
    | some target => set { rest := document.items.drop target, jumps := jumps : Decoding }

/-- Reads a node by its first item; an alias is read as the node that it
repeats, and the walk then goes on behind the alias. -/
def node (content : Document.Item → Mark → Decode α) : Decode α := do
  match ← next with
  | (.alias anchor, _) =>
    let rest := (← get).rest
    jump anchor
    let (item, mark) ← next
    let value ← content item mark
    modify fun decoding => { decoding with rest := rest }
    return value
  | (item, mark) => content item mark

/-- The tag that makes a scalar a truth value. The handle `!!` is short for
the beginning of it. -/
def boolTag : String := "tag:yaml.org,2002:bool"

/-- The tag that makes a scalar an integer. No field of the preferences is an
integer, so it only matters for the message. -/
def intTag : String := "tag:yaml.org,2002:int"

/-- The tag that makes a scalar a number. No field of the preferences is a
number, so it only matters for the message. -/
def floatTag : String := "tag:yaml.org,2002:float"

/-- The tag that makes a scalar no value. With any other text than one of the
words for no value it goes with nothing. -/
def nullTag : String := "tag:yaml.org,2002:null"

/-- What a scalar is, for a message; `none` if its tag does not
go with its text. -/
def describeScalar? (tag : Option String) (text : String) (style : Style) : Option String :=
  let asText := Meaning.describe (.text text)
  let plain := if style = .plain then (Untagged.meaning text).describe else asText
  match tag with
  | none => some plain
  | some tag =>
    if tag = boolTag then (Untagged.bool? text).map fun b => Meaning.describe (.bool b)
    else if tag = intTag then
      ((Untagged.integer? text.toList).bind Untagged.meaningOfInteger?).map Meaning.describe
    else if tag = floatTag then
      (Untagged.taggedFloat? text).map fun f => Meaning.describe (.float f)
    else if tag = nullTag then
      if Untagged.isNull text then some (Meaning.describe .null) else none
    else if tag.startsWith "!" then some plain
    else some asText

/-- The node that starts with `item` is not what is wanted. The message names
what the node is instead; items that cannot start a node belong to no document
that can be read. -/
def wrongType (item : Document.Item) (wanted : String) (path : List String) (mark : Mark) : Decode α :=
  match item with
  | .scalar tag text style =>
    match describeScalar? tag text style with
    | some got => misfit (.wrongType got wanted) path mark
    | none => malformed
  | .sequenceStart => misfit (.wrongType "sequence" wanted) path mark
  | .mappingStart => misfit (.wrongType "map" wanted) path mark
  | _ => malformed

/-- Plain scalars, and literal blocks with a tag of their own,
can be truth values. -/
def bool (path : List String) : Decode Bool :=
  node fun item mark =>
    match item with
    | .scalar tag text style =>
      let eligible := style == .plain || (style == .literal && tag == some boolTag)
      match if eligible then Untagged.bool? text else none with
      | some b => pure b
      | none => wrongType item "a boolean" path mark
    | _ => wrongType item "a boolean" path mark

/-- A key is any scalar, taken as its text, whatever it would mean as a value.
Neither its tag nor its quotes are looked at. -/
def keyText (wanted : String) (path : List String) : Decode String :=
  node fun item mark =>
    match item with
    | .scalar _ text _ => pure text
    | _ => wrongType item wanted path mark

/-- Passes over a node; `depth` collections are open. Aliases are not
followed. -/
def ignoreFrom : (fuel : Nat) → (depth : Nat) → Decode Unit
  | 0, _ => malformed
  | fuel + 1, depth => do
    let depth := match (← next).1 with
      | .sequenceStart | .mappingStart => depth + 1
      | .sequenceEnd | .mappingEnd => depth - 1
      | _ => depth
    if depth = 0 then return else ignoreFrom fuel depth

/-- Passes over a node. No more items are needed for it than are left. The
node may be a whole collection, with any depth of others in it. -/
def ignore : Decode Unit := do
  ignoreFrom ((← get).rest.length + 1) 0

/-- Whether the mapping goes on; its end is taken. Any other item is the key
of the next entry, which stays where it is. -/
def hasEntry : Decode Bool := do
  match (← peek).1 with
  | .mappingEnd =>
    let _ ← next
    return false
  | _ => return true

/-- How the next key stands in a path. A key that is no scalar
has no name there. -/
def pathPart : Decode String := do
  match (← peek).1 with
  | .scalar _ text _ => return text
  | _ => return "?"

/-- The entries of a mapping, folded over their keys. The step is given the
key and the path of its value. -/
def entries (wantedKey : String) (path : List String) (step : α → String → List String → Decode α) :
    (fuel : Nat) → α → Decode α
  | 0, _ => malformed
  | fuel + 1, value => do
    if ← hasEntry then
      let part ← pathPart
      let key ← keyText wantedKey path
      let value ← step value key (path ++ [part])
      entries wantedKey path step fuel value
    else return value

/-- A mapping. A scalar without any text stands for an empty one. Only a plain
scalar does; a text in quotes is a text even if it is empty. -/
def mapping (wanted wantedKey : String) (path : List String) (initial : α)
    (step : Mark → α → String → List String → Decode α) : Decode α :=
  node fun item mark =>
    match item with
    | .mappingStart => do
      entries wantedKey path (step mark) ((← get).rest.length + 1) initial
    | .void => pure initial
    | .scalar _ "" .plain => pure initial
    | _ => wrongType item wanted path mark

/-- The setting of one unit: `skip_capture`, and other keys that are passed
over. A unit without it is not skipped. -/
def unitSetting (path : List String) : Decode Bool := do
  let setting ← mapping "struct UnitPreferences" "field identifier" path (none : Option Bool)
    fun mark setting key valuePath => do
      if key = "skip_capture" then
        if setting.isSome then misfit (.duplicateField key) path mark
        else return some (← bool valuePath)
      else
        ignore
        return setting
  return setting.getD false

/-- Every unit with its setting. A name may come again; the last one counts,
in the place of the first. -/
def units (path : List String) : Decode (List (String × Bool)) :=
  mapping "a map" "a string" path [] fun _ found name valuePath => do
    return putEntry found name (← unitSetting valuePath)

/-- Preferences whose fields have been read so far, in whatever
order they stand. -/
structure Draft where
  forceRun : Option Bool := none
  verbose : Option Bool := none
  units : Option (List (String × Bool)) := none

/-- The preferences with their defaults for the fields that were not there:
neither flag is set and there are no units. -/
def Draft.finish (draft : Draft) : Preferences where
  forceRun := draft.forceRun.getD false
  verbose := draft.verbose.getD false
  units := draft.units.getD []

/-- Reads the root of a document as preferences. Keys that are not known are
passed over, and a field may not come twice. -/
def preferences : Decode Preferences := do
  let draft ← mapping "struct Preferences" "field identifier" [] ({} : Draft) fun mark draft key path => do
    if key = "force_run" then
      if draft.forceRun.isSome then misfit (.duplicateField key) [] mark
      else return { draft with forceRun := some (← bool path) }
    else if key = "verbose" then
      if draft.verbose.isSome then misfit (.duplicateField key) [] mark
      else return { draft with verbose := some (← bool path) }
    else if key = "units" then
      if draft.units.isSome then misfit (.duplicateField key) [] mark
      else return { draft with units := some (← units path) }
    else
      ignore
      return draft
  return draft.finish

end Decode

/-- Preferences from the first document, if it is whole. A node that does not
fit is reported first. -/
def Document.preferences (document : Document) : Except Fault Preferences := do
  let preferences ← (Decode.preferences.run document).run' { rest := document.items }
  if document.whole then return preferences else throw .malformed

end CallCapture.Yaml
