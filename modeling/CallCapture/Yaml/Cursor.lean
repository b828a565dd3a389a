import CallCapture.Text.ByteLength
import CallCapture.Yaml.Fault

namespace CallCapture.Yaml

/-- A break between lines that stays what it is when lines are folded. It ends
a line for the places as well. -/
def lineSeparator : Char := Char.ofNat 0x2028

/-- A break between paragraphs, which stays what it is as well. A literal
block keeps it as it keeps all breaks. -/
def paragraphSeparator : Char := Char.ofNat 0x2029

/-- A line break of its own, read as a new line. Texts from other systems have
it where a line feed would be. -/
def nextLine : Char := Char.ofNat 0x85

/-- The mark that a line may begin with and that means nothing. Further on in
a line it is part of a scalar. It is written as an escape only. -/
def byteOrderMark : Char := Char.ofNat 0xfeff

/-- The characters that may stand in a document as they are. A document is
read up to the piece of it that holds another one. -/
def isAcceptable (c : Char) : Bool :=
  let n := c.toNat
  n == 0x9 || n == 0xa || n == 0xd || (0x20 ≤ n && n ≤ 0x7e) || n == 0x85 || (0xa0 ≤ n && n ≤ 0xd7ff) ||
    (0xe000 ≤ n && n ≤ 0xfffd) || 0x10000 ≤ n

/-- The characters that end a line. A carriage return in front of a line feed
ends no line of its own. -/
def isBreak (c : Char) : Bool :=
  c == '\n' || c == '\r' || c == nextLine || c == lineSeparator || c == paragraphSeparator

/-- The characters that part two words of a line. Indentation is made of
spaces alone, so a tab is no part of it. -/
def isSpaceOrTab (c : Char) : Bool := c == ' ' || c == '\t'

/-- What ends a word. Some indicators count only in front of one, as `-` and
`:` are part of words otherwise. -/
def isGap (c : Char) : Bool := isSpaceOrTab c || isBreak c

/-- A gap or the end follows. The end of a document ends a word as a gap
does. -/
def gapFollows (text : List Char) : Bool := text.head?.all isGap

/-- Letters, digits, the hyphen and the underscore of ASCII: what the names of
anchors and directives are made of. -/
def isWordChar (c : Char) : Bool := c.isAlphanum || c == '-' || c == '_'

/-- A document is read from left to right: what is left of it, and the place
reached, which messages name. -/
structure Cursor where
  rest : List Char
  mark : Mark := {}
  deriving DecidableEq, Inhabited

namespace Cursor

/-- The next character, which stays where it is. There is none at
the end of the document. -/
def peek? (cursor : Cursor) : Option Char := cursor.rest.head?

/-- The next character is `c`. At the end of the document no character is. -/
def isAt (cursor : Cursor) (c : Char) : Bool := cursor.rest.head? == some c

/-- Steps over `n` characters of one line. The place has its bytes and its
characters counted apart. -/
def advance (cursor : Cursor) (n : Nat) : Cursor where
  rest := cursor.rest.drop n
  mark := { cursor.mark with
    index := cursor.mark.index + byteLength (cursor.rest.take n)
    column := cursor.mark.column + n }

/-- Takes the characters of one line up to the first that does not satisfy
`p`. -/
def takeWhile (cursor : Cursor) (p : Char → Bool) : List Char × Cursor :=
  let found := cursor.rest.takeWhile p
  (found, cursor.advance found.length)

/-- Leaves out the characters of one line up to the first that
does not satisfy `p`. -/
def skipWhile (cursor : Cursor) (p : Char → Bool) : Cursor := (cursor.takeWhile p).2

/-- Steps over a line break. A carriage return and the line feed behind
it are one break. -/
def breakLine (cursor : Cursor) : Cursor :=
  let width := match cursor.rest with
    | '\r' :: '\n' :: _ => 2
    | _ :: _ => 1
    | [] => 0
  ⟨cursor.rest.drop width, ⟨cursor.mark.index + byteLength (cursor.rest.take width), cursor.mark.line + 1, 0⟩⟩

/-- What a line break stands for: itself if it separates lines or paragraphs,
a new line otherwise, and nothing at the end. -/
def breakText (cursor : Cursor) : List Char :=
  match cursor.rest with
  | [] => []
  | c :: _ => if c = lineSeparator ∨ c = paragraphSeparator then [c] else ['\n']

/-- A line break stands here. The end of the document is no break. -/
def atBreak (cursor : Cursor) : Bool := cursor.rest.head?.any isBreak

/-- Takes a line break if one stands here. The text of the break is given with
the cursor behind it, as folding may drop it. -/
def takeBreak (cursor : Cursor) : List Char × Cursor :=
  if cursor.atBreak then (cursor.breakText, cursor.breakLine) else ([], cursor)

/-- Three times `c` on its own at the start of a line. A gap has to follow, so
that words may start with them. -/
def atDocumentMarker (cursor : Cursor) (c : Char) : Bool :=
  cursor.mark.column == 0 && [c, c, c].isPrefixOf cursor.rest && gapFollows (cursor.rest.drop 3)

/-- A document starts or ends here: `---` or `...` at the start of a line. A
plain scalar ends in front of it, and in a scalar in quotes it is a fault. -/
def atDocumentBound (cursor : Cursor) : Bool :=
  cursor.atDocumentMarker '-' || cursor.atDocumentMarker '.'

/-- The rest of a line that may hold only blanks and a comment, with its
break. -/
def finishLine? (cursor : Cursor) : Option Cursor :=
  let cursor := cursor.skipWhile isSpaceOrTab
  let cursor := if cursor.isAt '#' then cursor.skipWhile (!isBreak ·) else cursor
  if cursor.rest = [] then some cursor
  else if cursor.atBreak then some cursor.breakLine
  else none

end Cursor

end CallCapture.Yaml
