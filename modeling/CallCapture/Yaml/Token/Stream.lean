import CallCapture.Yaml.Token.Property
import CallCapture.Yaml.Token.Scalar

namespace CallCapture.Yaml

/-- A node that may turn out to be a key, which is known only when its
colon is met: how many tokens stand before it, whether it has to be one,
and where it starts. -/
structure PossibleKey where
  number : Nat
  required : Bool
  mark : Mark
  deriving DecidableEq, Inhabited

/-- A document on its way to its tokens. `indents` are the columns of the
enclosing blocks, `keys` the possible keys of the enclosing flow brackets and
of the block around them, both innermost first. `released` tokens have been
handed on; `tokens` has those behind them, the newest first. `cut` says that
the document goes on behind the cursor's text but cannot be read there. -/
structure Scanner where
  cursor : Cursor
  cut : Bool := false
  indents : List Nat := []
  keys : List (Option PossibleKey) := [none]
  keyAllowed : Bool := true
  released : Nat := 0
  tokens : List Token := []
  deriving DecidableEq, Inhabited

namespace Scanner

/-- A document is read in pieces of at most so many bytes. A character
that may not stand in a document only spoils the piece it is in and
what is behind it. -/
def pieceSize : Nat := 16384

/-- The pieces before the first one with a character that may not stand in a
document, and whether there is such a one. `piece`, last character first, has
`room` left for more bytes. -/
def readable (room : Nat) (piece : List Char) : List Char → List Char × Bool
  | [] => (piece.reverse, false)
  | c :: rest =>
    if !isAcceptable c then ([], true)
    else if c.utf8Size ≤ room then readable (room - c.utf8Size) (c :: piece) rest
    else
      let (later, cut) := readable (pieceSize - c.utf8Size) [c] rest
      (piece.reverse ++ later, cut)

/-- A document whose characters may all stand in one is read as it is,
whatever pieces it falls into. -/
theorem readable_of_acceptable (text : List Char) (acceptable : ∀ c ∈ text, isAcceptable c = true)
    (room : Nat) (piece : List Char) : readable room piece text = (piece.reverse ++ text, false) := by
  induction text generalizing room piece with
  | nil => simp only [readable, List.append_nil]
  | cons c rest ih =>
    have first : isAcceptable c = true := acceptable c List.mem_cons_self
    have later : ∀ d ∈ rest, isAcceptable d = true := fun d found => acceptable d (List.mem_cons_of_mem c found)
    simp only [readable, first, Bool.not_true, Bool.false_eq_true, if_false, ih later]
    split
    · simp only [List.reverse_cons, List.append_assoc, List.singleton_append]
    · simp only [List.reverse_singleton, List.singleton_append]

/-- A document with none of its tokens found yet but the one that
stands in front of it. -/
def ofString (text : String) : Scanner :=
  let (rest, cut) := readable pieceSize [] text.toList
  { cursor := { rest := rest }, cut := cut, tokens := [⟨.streamStart, {}, {}⟩] }

/-- How many tokens have been found. A possible key is known by how many had
been found in front of it. -/
def count (s : Scanner) : Nat := s.released + s.tokens.length

/-- The cursor is inside flow brackets, where indentation counts for nothing.
One possible key belongs to the block around all brackets. -/
def inFlow (s : Scanner) : Bool := s.keys.length > 1

/-- The place reached. The next token is looked for from here on. -/
def mark (s : Scanner) : Mark := s.cursor.mark

/-- The column at which the content of the innermost block may start. Without
a block that is any column. -/
def margin (s : Scanner) : Nat :=
  match s.indents with
  | [] => 0
  | column :: _ => column + 1

/-- One more token, behind all others. Its places are those in front of its
text and behind it. -/
def push (s : Scanner) (kind : Token.Kind) (start stop : Mark) : Scanner :=
  { s with tokens := ⟨kind, start, stop⟩ :: s.tokens }

/-- Puts a token behind the first `number` tokens. It announces a node that
had been read when the announcement was settled. -/
def insert (s : Scanner) (number : Nat) (kind : Token.Kind) (mark : Mark) : Scanner :=
  let later := s.count - number
  { s with tokens := s.tokens.take later ++ ⟨kind, mark, mark⟩ :: s.tokens.drop later }

/-- The next `width` characters are a token of their own. Indicators are of
this kind: their text is known once they are recognized. -/
def take (s : Scanner) (kind : Token.Kind) (width : Nat) : Scanner :=
  let cursor := s.cursor.advance width
  { s with cursor := cursor }.push kind s.mark cursor.mark

/-- Opens a block at `column` if that is further in than the present one; its
first token goes behind the first `number` tokens. -/
def openBlock (s : Scanner) (column number : Nat) (kind : Token.Kind) (mark : Mark) : Scanner :=
  if !s.inFlow && s.margin ≤ column then { s with indents := column :: s.indents }.insert number kind mark
  else s

/-- Closes the blocks that are further in than `column`; with no column, all
of them. Each has a token for its end. -/
def closeBlocks (s : Scanner) (column : Option Nat) : Scanner :=
  if s.inFlow then s
  else
    let closed := s.indents.takeWhile fun indent => column.all (· < indent)
    { s with
      indents := s.indents.drop closed.length
      tokens := closed.map (fun _ => ⟨.blockEnd, s.mark, s.mark⟩) ++ s.tokens }

/-- A key has to be on one line and within 1024 bytes. Behind that a colon no
longer makes it one. -/
def isStale (key : PossibleKey) (mark : Mark) : Bool :=
  key.mark.line < mark.line || key.mark.index + 1024 < mark.index

/-- Gives up the possible keys that have become too long; a
required one must not. -/
def dropStaleKeys? (s : Scanner) : Option Scanner :=
  let isLate (key : PossibleKey) : Bool := isStale key s.mark
  if s.keys.any fun key => key.any fun key => isLate key && key.required then none
  else some { s with keys := s.keys.map fun key => key.filter fun key => !isLate key }

/-- Gives up the innermost possible key, unless it is required. One that is
required and not followed by a colon ends the document with a fault. -/
def dropKey? (s : Scanner) : Option Scanner :=
  match s.keys with
  | some key :: keys => if key.required then none else some { s with keys := none :: keys }
  | _ => some s

/-- What stands here may be a key. It has to be one at the very column of
the innermost block. -/
def saveKey? (s : Scanner) : Option Scanner := do
  if s.keyAllowed then
    let required := !s.inFlow && s.indents.head? == some s.mark.column
    let s ← s.dropKey?
    return { s with keys := some ⟨s.count, required, s.mark⟩ :: s.keys.drop 1 }
  else return s

/-- Skips blanks, comments and line breaks, and a byte order mark at the start
of a line. Tabs are not skipped where a key may start, and a line break
outside brackets allows one. -/
def skipToToken : (fuel : Nat) → Scanner → Scanner
  | 0, s => s
  | fuel + 1, s =>
    let cursor := if s.mark.column = 0 ∧ s.cursor.isAt byteOrderMark then s.cursor.advance 1 else s.cursor
    let cursor := cursor.skipWhile fun c => c == ' ' || ((s.inFlow || !s.keyAllowed) && c == '\t')
    let cursor := if cursor.isAt '#' then cursor.skipWhile (!isBreak ·) else cursor
    if cursor.atBreak then
      skipToToken fuel { s with cursor := cursor.breakLine, keyAllowed := s.keyAllowed || !s.inFlow }
    else { s with cursor := cursor }

/-- The end of the stream, which ends all blocks. Its place is at
the start of a line. -/
def fetchStreamEnd? (s : Scanner) : Option Scanner := do
  let mark := if s.mark.column = 0 then s.mark else ⟨s.mark.index, s.mark.line + 1, 0⟩
  let s := { s with cursor := { s.cursor with mark := mark } }.closeBlocks none
  let s ← s.dropKey?
  return { s with keyAllowed := false }.push .streamEnd mark mark

/-- A line in front of a document, which belongs to none of its blocks. Behind
it on its line nothing but a comment may stand. -/
def fetchDirective? (s : Scanner) : Option Scanner := do
  let s ← (s.closeBlocks none).dropKey?
  let (kind, cursor) ← DirectiveLine.read? s.cursor
  return { s with cursor := cursor, keyAllowed := false }.push kind s.mark cursor.mark

/-- The marker of a document's start or end, which ends all blocks. A key
cannot start behind it on its line. -/
def fetchDocumentBound? (s : Scanner) (kind : Token.Kind) : Option Scanner := do
  let s ← (s.closeBlocks none).dropKey?
  return { s with keyAllowed := false }.take kind 3

/-- Opens brackets. What stands in them has possible keys of its own, and the
whole collection may be a key itself. -/
def fetchFlowStart? (s : Scanner) (kind : Token.Kind) : Option Scanner := do
  let s ← s.saveKey?
  return { s with keys := none :: s.keys, keyAllowed := true }.take kind 1

/-- Closes brackets. The possible keys are again those around them. The whole
collection may still turn out to be one of these keys. -/
def fetchFlowEnd? (s : Scanner) (kind : Token.Kind) : Option Scanner := do
  let s ← s.dropKey?
  let keys := if s.inFlow then s.keys.drop 1 else s.keys
  return { s with keys := keys, keyAllowed := false }.take kind 1

/-- A comma, behind which a key may start. Outside of brackets no event allows
it. -/
def fetchFlowEntry? (s : Scanner) : Option Scanner := do
  let s ← s.dropKey?
  return { s with keyAllowed := true }.take .flowEntry 1

/-- Opens a block here for the indicator that follows, which needs a place
where a key is allowed. -/
def openBlockHere? (s : Scanner) (kind : Token.Kind) : Option Scanner :=
  if s.inFlow then some s
  else if s.keyAllowed then some (s.openBlock s.mark.column s.count kind s.mark)
  else none

/-- The hyphen in front of an entry, which opens a sequence where none
is open at its column. -/
def fetchBlockEntry? (s : Scanner) : Option Scanner := do
  let s ← (← s.openBlockHere? .blockSequenceStart).dropKey?
  return { s with keyAllowed := true }.take .blockEntry 1

/-- The question mark in front of a key, which opens a mapping where none
is open at its column. -/
def fetchKey? (s : Scanner) : Option Scanner := do
  let s ← (← s.openBlockHere? .blockMappingStart).dropKey?
  return { s with keyAllowed := !s.inFlow }.take .key 1

/-- A colon makes the innermost possible key a key: what announces the key,
and the mapping if the key is its first, are put in front of the key. Without
a possible key the colon is in front of a value whose key is missing. -/
def fetchValue? (s : Scanner) : Option Scanner :=
  match s.keys with
  | some key :: keys =>
    let s := { s with keys := none :: keys, keyAllowed := false }.insert key.number .key key.mark
    some ((s.openBlock key.mark.column key.number .blockMappingStart key.mark).take .value 1)
  | _ => do
    let s ← s.openBlockHere? .blockMappingStart
    return { s with keyAllowed := !s.inFlow }.take .value 1

/-- An anchor or an alias, by the mark in front of its name. It may stand in
front of a key, and an alias may be the key itself. -/
def fetchName? (s : Scanner) (kind : String → Token.Kind) : Option Scanner := do
  let s ← s.saveKey?
  let (name, cursor) ← Property.name? (s.cursor.advance 1)
  return { s with cursor := cursor, keyAllowed := false }.push (kind name) s.mark cursor.mark

/-- A tag, which may stand in front of a key. Brackets decide on the
characters that may follow it. -/
def fetchTag? (s : Scanner) : Option Scanner := do
  let s ← s.saveKey?
  let (kind, cursor) ← Property.tag? s.inFlow s.cursor
  return { s with cursor := cursor, keyAllowed := false }.push kind s.mark cursor.mark

/-- A block of lines. It is no key, and a key may follow it. Its lines are
read at once, down to the first that is not indented as they are. -/
def fetchBlockScalar? (s : Scanner) (isLiteral : Bool) : Option Scanner := do
  let s ← s.dropKey?
  let found ← Block.read? isLiteral s.indents.head? (s.cursor.advance 1)
  return { s with cursor := found.cursor, keyAllowed := true }.push
    (.scalar (String.ofList found.text) (if isLiteral then .literal else .folded)) s.mark found.cursor.mark

/-- A scalar in quotes, which may be a key. Whether it is one, the colon
behind its closing quote decides. -/
def fetchQuotedScalar? (s : Scanner) (single : Bool) : Option Scanner := do
  let s ← s.saveKey?
  let (text, cursor) ← Quoted.read? single (s.cursor.rest.length + 1) [] (s.cursor.advance 1)
  return { s with cursor := cursor, keyAllowed := false }.push
    (.scalar (String.ofList text) (if single then .single else .double)) s.mark cursor.mark

/-- A plain scalar, which may be a key. One that was left by a line break
allows a key behind it. -/
def fetchPlainScalar? (s : Scanner) : Option Scanner := do
  let s ← s.saveKey?
  let found ← Plain.read? s.inFlow s.margin (s.cursor.rest.length + 1) [] {} s.cursor
  return { s with cursor := found.cursor, keyAllowed := found.endsLine }.push
    (.scalar (String.ofList found.text) .plain) s.mark found.cursor.mark

/-- The characters that no plain scalar starts with, three of them only
in front of a gap. -/
def isIndicator (c : Char) : Bool :=
  ['-', '?', ':', ',', '[', ']', '\x7b', '\x7d', '#', '&', '*', '!', '|', '>', '\'', '"', '%', '@', '`'].contains c

/-- A plain scalar starts with `c`, which has `rest` behind it.
Some indicators may start one as well, as long as what follows
shows that they are none. -/
def startsPlain (s : Scanner) (c : Char) (rest : List Char) : Bool :=
  !(isGap c || isIndicator c) || (c == '-' && !rest.head?.any isSpaceOrTab) ||
    (!s.inFlow && (c == '?' || c == ':') && !gapFollows rest)

/-- The next token, by the character that it starts with. What can start no
token ends the document with a fault. -/
def fetchFrom? (s : Scanner) : Option Scanner :=
  match s.cursor.rest with
  | [] => s.fetchStreamEnd?
  | c :: rest =>
    if s.mark.column = 0 ∧ c = '%' then s.fetchDirective?
    else if s.cursor.atDocumentMarker '-' then s.fetchDocumentBound? .documentStart
    else if s.cursor.atDocumentMarker '.' then s.fetchDocumentBound? .documentEnd
    else if c = '[' then s.fetchFlowStart? .flowSequenceStart
    else if c = '\x7b' then s.fetchFlowStart? .flowMappingStart
    else if c = ']' then s.fetchFlowEnd? .flowSequenceEnd
    else if c = '\x7d' then s.fetchFlowEnd? .flowMappingEnd
    else if c = ',' then s.fetchFlowEntry?
    else if c = '-' ∧ gapFollows rest then s.fetchBlockEntry?
    else if c = '?' ∧ (s.inFlow ∨ gapFollows rest) then s.fetchKey?
    else if c = ':' ∧ (s.inFlow ∨ gapFollows rest) then s.fetchValue?
    else if c = '*' then s.fetchName? .alias
    else if c = '&' then s.fetchName? .anchor
    else if c = '!' then s.fetchTag?
    else if c = '|' ∧ !s.inFlow then s.fetchBlockScalar? true
    else if c = '>' ∧ !s.inFlow then s.fetchBlockScalar? false
    else if c = '\'' then s.fetchQuotedScalar? true
    else if c = '"' then s.fetchQuotedScalar? false
    else if s.startsPlain c rest then s.fetchPlainScalar?
    else none

/-- So many more characters can be read, or the document ends before.
Where the document was cut, the characters behind the cut are missing
though it goes on. -/
def has (s : Scanner) (n : Nat) : Bool := !s.cut || (s.cursor.rest.drop (n - 1)) ≠ []

/-- Finds the next token, with the ends of blocks before it and the
announcement of a key. -/
def fetch? (s : Scanner) : Option Scanner := do
  let s ← (s.skipToToken (s.cursor.rest.length + 1)).dropStaleKeys?
  if s.has 4 then
    let s ← (s.closeBlocks (some s.mark.column)).fetchFrom?
    if s.has 1 then return s else none
  else none

/-- The oldest token, once it is not where a possible key starts. Before that
question the keys that have become too long are given up, which may be a fault
also when nothing needs to be fetched. -/
def release? : (fuel : Nat) → Scanner → Option (Token × Scanner)
  | 0, _ => none
  | fuel + 1, s =>
    match s.tokens.getLast? with
    | none => do release? fuel (← s.fetch?)
    | some token => do
      let s ← s.dropStaleKeys?
      if s.keys.any fun key => key.any fun key => key.number = s.released then release? fuel (← s.fetch?)
      else return (token, { s with released := s.released + 1, tokens := s.tokens.dropLast })

/-- Tokens to the end of the stream, or up to a fault. A token is handed on as
soon as nothing can be put in front of it any more, so many of them can be had
from a document with a fault in it. -/
def tokensFrom : (fuel : Nat) → Scanner → List Token
  | 0, _ => []
  | fuel + 1, s =>
    match s.release? (s.cursor.rest.length + 2) with
    | none => []
    | some (token, next) => token :: if token.kind = .streamEnd then [] else tokensFrom fuel next

end Scanner

/-- The tokens of a document as far as it can be read; those of a whole
document end with `streamEnd`. -/
def Token.ofString (text : String) : List Token :=
  (Scanner.ofString text).tokensFrom (4 * text.length + 8)

end CallCapture.Yaml
