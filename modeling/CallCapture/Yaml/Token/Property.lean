import CallCapture.Text.Hex
import CallCapture.Yaml.Cursor
import CallCapture.Yaml.Token

namespace CallCapture.Yaml

namespace Property

/-- What the name of an anchor may be followed by. They stay where they are,
as what follows begins with them. -/
def isAnchorEnd (c : Char) : Bool :=
  isGap c || c == '?' || c == ':' || c == ',' || c == ']' || c == '\x7d' || c == '%' || c == '@' || c == '`'

/-- The name of an anchor or an alias, whose mark has been taken.
Without a character of its own it is no name, and neither is it with a
foreign one behind it. -/
def name? (cursor : Cursor) : Option (String × Cursor) :=
  let (name, cursor) := cursor.takeWhile isWordChar
  if name ≠ [] ∧ cursor.peek?.all isAnchorEnd then some (String.ofList name, cursor) else none

/-- The characters of a tag. Commas and brackets are among them only where no
brackets of the document can be meant. -/
def isUriChar (wide : Bool) (c : Char) : Bool :=
  isWordChar c || [';', '/', '?', ':', '@', '&', '=', '+', '$', '.', '!', '~', '*', '\'', '(', ')'].contains c ||
    (wide && (c == ',' || c == '[' || c == ']'))

/-- One octet, as a percent sign and two digits. Both digits have to be
hexadecimal, of either case. -/
def octet? : List Char → Option Nat
  | '%' :: a :: b :: _ => hexValue? [a, b]
  | _ => none

/-- How many octets a character takes whose first one this is, and what that
one adds to its number. -/
def leadingOctet? (octet : Nat) : Option (Nat × Nat) :=
  if octet < 0x80 then some (1, octet)
  else if octet / 0x20 = 6 then some (2, octet % 0x20)
  else if octet / 0x10 = 14 then some (3, octet % 0x10)
  else if octet / 0x8 = 30 then some (4, octet % 0x8)
  else none

/-- The octets that follow the first one. Each adds six bits to the number,
and none may look like a first one. -/
def trailingOctets? : (count : Nat) → (number : Nat) → List Char → Option Nat
  | 0, number, _ => some number
  | count + 1, number, text => do
    let octet ← octet? text
    if octet / 0x40 = 2 then trailingOctets? count (number * 0x40 + octet % 0x40) (text.drop 3) else none

/-- The least number for which a character takes `width` octets. A smaller
number would have been written with fewer octets. -/
def leastOfWidth (width : Nat) : Nat :=
  match width with
  | 2 => 0x80
  | 3 => 0x800
  | 4 => 0x10000
  | _ => 0

/-- A character that is given by its octets, and how long that is. Octets that
are no character, or more than it needs, leave the replacement character. -/
def escapedChar? (text : List Char) : Option (Char × Nat) := do
  let (width, number) ← leadingOctet? (← octet? text)
  let number ← trailingOctets? (width - 1) number (text.drop 3)
  let fits := leastOfWidth width ≤ number && decide number.isValidChar
  return (if fits then Char.ofNat number else Char.ofNat 0xfffd, 3 * width)

/-- The characters of a tag up to the first that is none of them. Octets are
taken together to the characters that they make. -/
def uri? (wide : Bool) : (fuel : Nat) → Cursor → Option (List Char × Cursor)
  | 0, cursor => some ([], cursor)
  | fuel + 1, cursor =>
    match cursor.peek? with
    | none => some ([], cursor)
    | some c =>
      if c = '%' then do
        let (c, width) ← escapedChar? cursor.rest
        let (rest, cursor) ← uri? wide fuel (cursor.advance width)
        return (c :: rest, cursor)
      else if isUriChar wide c then do
        let (rest, cursor) ← uri? wide fuel (cursor.advance 1)
        return (c :: rest, cursor)
      else some ([], cursor)

/-- A tag ends where a NUL is given in it, though it has to be
written to its end. -/
def untilNul (uri : List Char) : List Char := uri.takeWhile (· ≠ '\x00')

/-- An exclamation mark, the word behind it, and a second mark if there is
one. -/
def handle? (cursor : Cursor) : Option (List Char × Cursor) :=
  if cursor.isAt '!' then
    let (word, behind) := (cursor.advance 1).takeWhile isWordChar
    if behind.isAt '!' then some ('!' :: word ++ ['!'], behind.advance 1) else some ('!' :: word, behind)
  else none

/-- A tag as a handle and what the handle is put in front of. A tag in angle
brackets has no handle, and a lone mark has itself as its suffix. -/
def tagParts? (cursor : Cursor) : Option (List Char × List Char × Cursor) :=
  if (cursor.advance 1).isAt '<' then do
    let (uri, cursor) ← uri? true (cursor.rest.length + 1) (cursor.advance 2)
    if uri ≠ [] ∧ cursor.isAt '>' then some ([], untilNul uri, cursor.advance 1) else none
  else do
    let (handle, cursor) ← handle? cursor
    let (suffix, cursor) ← uri? false (cursor.rest.length + 1) cursor
    if handle.length > 1 ∧ handle.getLast? = some '!' then
      if suffix = [] then none else some (handle, untilNul suffix, cursor)
    else
      let suffix := untilNul (handle.drop 1 ++ suffix)
      if suffix = [] then some ([], ['!'], cursor) else some (['!'], suffix, cursor)

/-- A tag with a gap behind it. Inside brackets a comma does as well. What
follows otherwise would be part of no tag and of no node. -/
def tag? (inFlow : Bool) (cursor : Cursor) : Option (Token.Kind × Cursor) := do
  let (handle, suffix, cursor) ← tagParts? cursor
  if (inFlow && cursor.isAt ',') || gapFollows cursor.rest then
    some (.tag (String.ofList handle) (String.ofList suffix), cursor)
  else none

end Property

namespace DirectiveLine

/-- A part of a version number: at most nine digits. More digits would not be
a version, whatever their number. -/
def number? (cursor : Cursor) : Option (Nat × Cursor) :=
  let (digits, cursor) := cursor.takeWhile Char.isDigit
  if digits = [] ∨ digits.length > 9 then none
  else some (digits.foldl (fun n c => 10 * n + (c.toNat - '0'.toNat)) 0, cursor)

/-- The version that a document is written for. Its two parts have a
point between them. Whether such documents can be read is seen when
its event is made. -/
def version? (cursor : Cursor) : Option (Token.Kind × Cursor) := do
  let (major, cursor) ← number? (cursor.skipWhile isSpaceOrTab)
  if cursor.isAt '.' then
    let (minor, cursor) ← number? (cursor.advance 1)
    return (.versionDirective major minor, cursor)
  else none

/-- A handle and what it stands for in the document below. A handle of
its own has an exclamation mark on both sides, and the two parts have
blanks between them. -/
def tag? (cursor : Cursor) : Option (Token.Kind × Cursor) := do
  let (handle, cursor) ← Property.handle? (cursor.skipWhile isSpaceOrTab)
  if handle ≠ ['!'] ∧ handle.getLast? ≠ some '!' then none
  else if !cursor.peek?.any isSpaceOrTab then none
  else
    let (expansion, cursor) ← Property.uri? true (cursor.rest.length + 1) (cursor.skipWhile isSpaceOrTab)
    if expansion = [] ∨ !gapFollows cursor.rest then none
    else return (.tagDirective (String.ofList handle) (String.ofList (Property.untilNul expansion)), cursor)

/-- A line that starts with a percent sign: the version, or a handle of tags.
No other line of this kind is known. -/
def read? (cursor : Cursor) : Option (Token.Kind × Cursor) := do
  let (name, cursor) := (cursor.advance 1).takeWhile isWordChar
  if !gapFollows cursor.rest then none
  else
    let (kind, cursor) ←
      if name = ['Y', 'A', 'M', 'L'] then version? cursor
      else if name = ['T', 'A', 'G'] then tag? cursor
      else none
    return (kind, ← cursor.finishLine?)

end DirectiveLine

end CallCapture.Yaml
