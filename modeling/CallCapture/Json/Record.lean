import CallCapture.Json.Skip
import CallCapture.Text.Quoted

namespace CallCapture.Json

namespace Reader

/-- What stands here instead of the wanted value. Numbers, words and texts are
read to the end for it, brackets stay where they are. -/
def describeNext : Reader String := do
  match ← peek? with
  | some 'n' =>
    step
    ident ['u', 'l', 'l']
    return "null"
  | some 't' =>
    step
    ident ['r', 'u', 'e']
    return "boolean `true`"
  | some 'f' =>
    step
    ident ['a', 'l', 's', 'e']
    return "boolean `false`"
  | some '-' =>
    step
    return (← number false).describe
  | some '"' =>
    step
    return "string " ++ quoted (← textBody)
  | some '[' => return "sequence"
  | some '\x7b' => return "map"
  | some c => if c.isDigit then return (← number true).describe else failNext .expectedValue
  | none => failNext .expectedValue

/-- Fails because something else stands here than what is wanted. If the other
thing is at fault itself, that comes first. -/
def wrongType {α : Type} (wanted : String) : Reader α := do
  let got ← describeNext
  failHere (.wrongType got wanted)

/-- A text, with space in front of it. Anything else is read as far as the
message needs it and refused. -/
def text : Reader String := do
  match ← peekSolid? with
  | none => failNext .eofInValue
  | some c =>
    if c = '"' then
      step
      textBody
    else wrongType "a string"

/-- Whether another item follows in a list. The comma in front of it is taken;
a comma that no item follows is a fault of its own. -/
def hasItem (first : Bool) : Reader Bool := do
  match ← peekSolid? with
  | none => failNext .eofInList
  | some c =>
    if c = ']' then return false
    else if first then return true
    else if c = ',' then
      step
      match ← peekSolid? with
      | none => failNext .eofInValue
      | some c => if c = ']' then failNext .trailingComma else return true
    else failNext .expectedCommaInList

/-- The end of a list whose items have been read. What stands there instead
tells which fault it is. -/
def closeList : Reader Unit := do
  match ← peekSolid? with
  | none => failNext .eofInList
  | some c =>
    if c = ']' then step
    else if c = ',' then
      step
      if (← peekSolid?) = some ']' then failNext .trailingComma else failNext .trailingCharacters
    else failNext .trailingCharacters

/-- The items of a list from here on. The first has no comma in front
of it. The fuel is more than what is left of the text, and every item
takes some of it. -/
def items {α : Type} (item : Reader α) : (fuel : Nat) → (first : Bool) → Reader (List α)
  | 0, _ => failHere .eofInList
  | fuel + 1, first => do
    if ← hasItem first then
      let head ← item
      return head :: (← items item fuel false)
    else return []

/-- A list of whatever `item` reads. A list may be empty; anything else than
a list is refused. -/
def list {α : Type} (item : Reader α) : Reader (List α) := do
  match ← peekSolid? with
  | none => failNext .eofInValue
  | some c =>
    if c = '[' then
      step
      let found ← items item ((← sizeLeft) + 1) true
      closeList
      return found
    else wrongType "a sequence"

/-- Whether another entry follows in an object, whose key is then next. A
comma that no key follows is a fault of its own. -/
def hasEntry (first : Bool) : Reader Bool := do
  match ← peekSolid? with
  | none => failNext .eofInObject
  | some c =>
    if c = '\x7d' then return false
    else if first then
      if c = '"' then return true else failNext .keyNotText
    else if c = ',' then
      step
      match ← peekSolid? with
      | none => failNext .eofInValue
      | some c =>
        if c = '"' then return true
        else if c = '\x7d' then failNext .trailingComma
        else failNext .keyNotText
    else failNext .expectedCommaInObject

end Reader

/-- One field of a record that is being put together in a draft: its name,
whether the draft has it, and how it is read into it. -/
structure Field (Draft : Type) where
  name : String
  isSet : Draft → Bool
  read : Draft → Reader Draft

/-- A record: how it is named in messages, what its fields are, and how a full
draft becomes a value. -/
structure Layout (Draft α : Type) where
  name : String
  fields : List (Field Draft)
  blank : Draft
  finish : Draft → Option α

namespace Layout

variable {Draft α : Type}

/-- How a message names the record where something else stands. The name is
the one that the record has for whoever wrote it. -/
def wanted (layout : Layout Draft α) : String := "struct " ++ layout.name

/-- How a message names the record where a list has too few items for it. An
object that lacks a field has a message of its own, which names the field. -/
def wantedLength (layout : Layout Draft α) : String :=
  layout.wanted ++ " with " ++ toString layout.fields.length ++
    (if layout.fields.length = 1 then " element" else " elements")

/-- The first field that a draft lacks, in the order of the record. A message
names one field only, however many there are. -/
def missing? (layout : Layout Draft α) (draft : Draft) : Option String :=
  (layout.fields.find? fun field => !field.isSet draft).map Field.name

end Layout

namespace Reader

variable {Draft α : Type}

/-- Steps over the end of a record whose content is at fault already, as far
as it is there, which moves the place of the fault. -/
def abandon (bracket : Bracket) : Reader Unit := do
  let next ← peekSolid?
  if next = some bracket.closing then step
  else if bracket = .list ∧ next = some ',' then
    step
    modify Cursor.skipSpace

/-- The entries of an object: unknown keys are passed over, a key that comes
twice ends the reading. -/
def entries (layout : Layout Draft α) :
    (fuel : Nat) → (first : Bool) → Draft → Reader (Except Problem Draft)
  | 0, _, _ => failHere .eofInObject
  | fuel + 1, first, draft => do
    if ← hasEntry first then
      step
      let key ← textBody
      match layout.fields.find? fun field => field.name = key with
      | none =>
        colon
        ignoredValue
        entries layout fuel false draft
      | some field =>
        if field.isSet draft then return .error (.duplicateField key)
        else
          colon
          let draft ← field.read draft
          entries layout fuel false draft
    else
      match layout.missing? draft with
      | none => return .ok draft
      | some name => return .error (.missingField name)

/-- The fields in their order, as the items of a list. All of them
have to be there. -/
def fieldItems (layout : Layout Draft α) :
    List (Field Draft) → (index : Nat) → Draft → Reader (Except Problem Draft)
  | [], _, draft => return .ok draft
  | field :: fields, index, draft => do
    if ← hasItem (index == 0) then
      let draft ← field.read draft
      fieldItems layout fields (index + 1) draft
    else return .error (.wrongLength index layout.wantedLength)

/-- A fault of the content is reported behind the end of the record. A
record without fault is closed first, so a missing bracket is reported
before its value is made. -/
def finishRecord (layout : Layout Draft α) (bracket : Bracket) (content : Except Problem Draft) :
    Reader α := do
  match content with
  | .error problem =>
    abandon bracket
    failHere problem
  | .ok draft =>
    match bracket with
    | .list => closeList
    | .object => step
    match layout.finish draft with
    | some value => return value
    | none => failHere (.wrongLength 0 layout.wantedLength)

/-- A record, as an object with its fields in any order, or as the
list of its fields. -/
def record (layout : Layout Draft α) : Reader α := do
  match ← peekSolid? with
  | none => failNext .eofInValue
  | some c =>
    if c = '\x7b' then
      step
      finishRecord layout .object (← entries layout ((← sizeLeft) + 1) true layout.blank)
    else if c = '[' then
      step
      finishRecord layout .list (← fieldItems layout layout.fields 0 layout.blank)
    else wrongType layout.wanted

/-- Reads a whole text, which holds nothing behind the value. Space may follow
the value, but a second value is at fault. -/
def run (reader : Reader α) (text : String) : Except Fault α :=
  (do
    let value ← reader
    match ← peekSolid? with
    | none => return value
    | some _ => failNext .trailingCharacters : Reader α).run' (.ofString text)

end Reader

end CallCapture.Json
