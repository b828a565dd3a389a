import CallCapture.Text.Hex
import CallCapture.Yaml.Cursor

namespace CallCapture.Yaml

/-- The blanks and line breaks between two words of a scalar. Blanks count
only as long as there is no break. -/
structure Gap where
  blanks : List Char := []
  broken : Bool := false
  firstBreak : List Char := []
  moreBreaks : List Char := []
  deriving DecidableEq, Inhabited

namespace Gap

/-- A single new line becomes a space, and is dropped before further breaks;
other breaks are kept. -/
def folded (gap : Gap) : List Char :=
  if !gap.broken then gap.blanks
  else if gap.firstBreak.head? = some '\n' then
    if gap.moreBreaks = [] then [' '] else gap.moreBreaks
  else gap.firstBreak ++ gap.moreBreaks

/-- Reads on to the next word. On a later line of a plain scalar no tab may
stand left of `tabLimit`. -/
def read? (tabLimit : Nat) : (fuel : Nat) → Gap → Cursor → Option (Gap × Cursor)
  | 0, gap, cursor => some (gap, cursor)
  | fuel + 1, gap, cursor =>
    match cursor.peek? with
    | none => some (gap, cursor)
    | some c =>
      if isSpaceOrTab c then
        if gap.broken then
          if c = '\t' ∧ cursor.mark.column < tabLimit then none
          else read? tabLimit fuel gap (cursor.advance 1)
        else read? tabLimit fuel { gap with blanks := gap.blanks ++ [c] } (cursor.advance 1)
      else if isBreak c then
        let (text, cursor) := cursor.takeBreak
        if gap.broken then read? tabLimit fuel { gap with moreBreaks := gap.moreBreaks ++ text } cursor
        else read? tabLimit fuel { broken := true, firstBreak := text } cursor
      else some (gap, cursor)

end Gap

/-- The text of a scalar, whether it was left by a line break,
and what follows. -/
structure ScalarText where
  text : List Char
  endsLine : Bool
  cursor : Cursor
  deriving DecidableEq, Inhabited

namespace Plain

/-- The characters that end a plain scalar inside flow brackets. Outside of
brackets they are characters like others. -/
def isFlowIndicator (c : Char) : Bool :=
  c == ',' || c == '[' || c == ']' || c == '\x7b' || c == '\x7d'

/-- One word: up to a gap, to a colon before a gap or, inside brackets, to an
indicator. A colon before an indicator is at fault there. -/
def word? (inFlow : Bool) : List Char → Option (List Char)
  | [] => some []
  | c :: rest =>
    if isGap c then some []
    else if inFlow ∧ c = ':' ∧ rest.head?.any (fun d => isFlowIndicator d || d == '?') then none
    else if (c = ':' ∧ gapFollows rest) ∨ (inFlow ∧ isFlowIndicator c) then some []
    else (word? inFlow rest).map (c :: ·)

/-- Words up to a document marker, a comment, an indicator or, outside
brackets, a line that is indented by less than `margin`. -/
def read? (inFlow : Bool) (margin : Nat) :
    (fuel : Nat) → (text : List Char) → Gap → Cursor → Option ScalarText
  | 0, text, gap, cursor => some ⟨text, gap.broken, cursor⟩
  | fuel + 1, text, gap, cursor =>
    if cursor.atDocumentBound || cursor.isAt '#' then some ⟨text, gap.broken, cursor⟩
    else do
      let word ← word? inFlow cursor.rest
      let next := cursor.advance word.length
      let (text, gap) := if word = [] then (text, gap) else (text ++ gap.folded ++ word, {})
      if next.peek?.any isGap then
        let (gap, behind) ← Gap.read? margin (next.rest.length + 1) gap next
        if !inFlow && behind.mark.column < margin then some ⟨text, gap.broken, behind⟩
        else read? inFlow margin fuel text gap behind
      else some ⟨text, gap.broken, next⟩

end Plain

namespace Quoted

/-- The character that a one-letter escape stands for. Letters that stand for
nothing are at fault behind a backslash. -/
def shortEscape? (c : Char) : Option Char :=
  match c with
  | '0' => some '\x00'
  | 'a' => some '\x07'
  | 'b' => some '\x08'
  | 't' => some '\t'
  | '\t' => some '\t'
  | 'n' => some '\n'
  | 'v' => some '\x0b'
  | 'f' => some '\x0c'
  | 'r' => some '\r'
  | 'e' => some '\x1b'
  | ' ' => some ' '
  | '"' => some '"'
  | '/' => some '/'
  | '\\' => some '\\'
  | 'N' => some nextLine
  | '_' => some (Char.ofNat 0xa0)
  | 'L' => some lineSeparator
  | 'P' => some paragraphSeparator
  | _ => none

/-- How many hexadecimal digits follow the letter of a numeric escape. The
character has to have all of them, with zeros in front if it needs fewer. -/
def hexLength? (c : Char) : Option Nat :=
  match c with
  | 'x' => some 2
  | 'u' => some 4
  | 'U' => some 8
  | _ => none

/-- A character by its number; `none` if no character has it. The halves of
surrogate pairs are no characters here. -/
def numbered? (digits : List Char) (length : Nat) : Option Char :=
  if digits.length < length then none
  else (hexValue? digits).bind fun n =>
    if n.isValidChar then some (Char.ofNat n) else none

/-- A run without gaps, up to the closing quote: its text, and whether an
escaped line break ended it. -/
def run? (single : Bool) : (fuel : Nat) → Cursor → Option (List Char × Bool × Cursor)
  | 0, cursor => some ([], false, cursor)
  | fuel + 1, cursor =>
    match cursor.rest with
    | [] => some ([], false, cursor)
    | c :: rest =>
      if isGap c then some ([], false, cursor)
      else if single then
        if c = '\'' then
          if rest.head? = some '\'' then do
            let (text, escaped, cursor) ← run? single fuel (cursor.advance 2)
            return ('\'' :: text, escaped, cursor)
          else some ([], false, cursor)
        else do
          let (text, escaped, cursor) ← run? single fuel (cursor.advance 1)
          return (c :: text, escaped, cursor)
      else if c = '"' then some ([], false, cursor)
      else if c = '\\' then
        match rest with
        | [] => none
        | e :: digits =>
          if isBreak e then some ([], true, (cursor.advance 1).breakLine)
          else
            match shortEscape? e, hexLength? e with
            | some value, _ => do
              let (text, escaped, cursor) ← run? single fuel (cursor.advance 2)
              return (value :: text, escaped, cursor)
            | none, some length => do
              let value ← numbered? (digits.take length) length
              let (text, escaped, cursor) ← run? single fuel (cursor.advance (2 + length))
              return (value :: text, escaped, cursor)
            | none, none => none
      else do
        let (text, escaped, cursor) ← run? single fuel (cursor.advance 1)
        return (c :: text, escaped, cursor)

/-- The character that opens and closes the scalar. In single quotes it stands
for itself if it is doubled, in double quotes behind a backslash. -/
def quote (single : Bool) : Char := if single then '\'' else '"'

/-- Runs and the gaps between them, up to and including the closing quote. A
document may not start or end in between. -/
def read? (single : Bool) : (fuel : Nat) → (text : List Char) → Cursor → Option (List Char × Cursor)
  | 0, _, _ => none
  | fuel + 1, text, cursor =>
    if cursor.atDocumentBound || cursor.rest = [] then none
    else do
      let (run, escaped, cursor) ← run? single (cursor.rest.length + 1) cursor
      if cursor.isAt (quote single) then return (text ++ run, cursor.advance 1)
      else
        let (gap, cursor) ← Gap.read? 0 (cursor.rest.length + 1) { broken := escaped } cursor
        read? single fuel (text ++ run ++ gap.folded) cursor

end Quoted

namespace Block

/-- What becomes of the line breaks at the end of a block: none is left, the
first one, or all of them. -/
inductive Chomping where
  | strip
  | clip
  | keep
  deriving DecidableEq, Inhabited

/-- The indicators of a block. Without an increment its first line with
content settles its indentation. -/
structure Header where
  chomping : Chomping := .clip
  increment : Option Nat := none
  deriving DecidableEq, Inhabited

/-- An indicator of what becomes of the last line breaks. Without one of them
a single break is kept. -/
def chomping? (c : Char) : Option Chomping :=
  if c = '+' then some .keep else if c = '-' then some .strip else none

/-- An indentation indicator, which is not zero. With it the first line may
start with blanks of its own. -/
def increment? (c : Char) : Option Nat :=
  if c.isDigit ∧ c ≠ '0' then some (c.toNat - '0'.toNat) else none

/-- The two indicators of a block, in either order. Each may be left out. A
zero is at fault. -/
def header? (cursor : Cursor) : Option (Header × Cursor) :=
  match cursor.rest with
  | [] => some ({}, cursor)
  | c :: rest =>
    match chomping? c with
    | some chomping =>
      match rest.head? with
      | some d =>
        if d.isDigit then
          (increment? d).map fun n => (⟨chomping, some n⟩, cursor.advance 2)
        else some (⟨chomping, none⟩, cursor.advance 1)
      | none => some (⟨chomping, none⟩, cursor.advance 1)
    | none =>
      if c.isDigit then
        (increment? c).map fun n =>
          match rest.head?.bind chomping? with
          | some chomping => (⟨chomping, some n⟩, cursor.advance 2)
          | none => (⟨.clip, some n⟩, cursor.advance 1)
      else some ({}, cursor)

/-- The blank lines before the next line with content: their breaks, and
how far the deepest of them reaches. The content's indentation is `indent`,
or still unknown. -/
def blankLines? (indent : Option Nat) :
    (fuel : Nat) → (breaks : List Char) → (deepest : Nat) → Cursor → Option (List Char × Nat × Cursor)
  | 0, breaks, deepest, cursor => some (breaks, deepest, cursor)
  | fuel + 1, breaks, deepest, cursor =>
    let spaces := (cursor.rest.takeWhile (· == ' ')).length
    let cursor := cursor.advance <| match indent with
      | some indent => min spaces (indent - cursor.mark.column)
      | none => spaces
    let deepest := max deepest cursor.mark.column
    if indent.all (cursor.mark.column < ·) && cursor.isAt '\t' then none
    else if cursor.atBreak then
      blankLines? indent fuel (breaks ++ cursor.breakText) deepest cursor.breakLine
    else some (breaks, deepest, cursor)

/-- A block that is being read: its text so far, the break that ended the
last line, the breaks of the blank lines behind it, and whether that line
started with a blank. -/
structure Lines where
  text : List Char := []
  pending : List Char := []
  breaks : List Char := []
  startedBlank : Bool := false
  deriving DecidableEq, Inhabited

/-- What stands between the last line and the next one, blank lines apart. In
a folded block a new line between two lines that do not start with a blank
becomes a space, or vanishes before blank lines. -/
def Lines.joint (lines : Lines) (isLiteral startsBlank : Bool) : List Char :=
  if !isLiteral && lines.pending.head? == some '\n' && !lines.startedBlank && !startsBlank then
    if lines.breaks = [] then [' '] else []
  else lines.pending

/-- Reads lines as long as they are indented by `indent`. A line
that is indented by less ends the block; an empty one may be, as it
counts as a break. -/
def lines? (isLiteral : Bool) (indent : Nat) : (fuel : Nat) → Lines → Cursor → Option (Lines × Cursor)
  | 0, lines, cursor => some (lines, cursor)
  | fuel + 1, lines, cursor =>
    if cursor.mark.column = indent ∧ cursor.rest ≠ [] then do
      let startsBlank := cursor.peek?.any isSpaceOrTab
      let (line, behind) := cursor.takeWhile (!isBreak ·)
      let (pending, next) := behind.takeBreak
      let (breaks, _, next) ← blankLines? (some indent) (next.rest.length + 1) [] 0 next
      let text := lines.text ++ lines.joint isLiteral startsBlank ++ lines.breaks ++ line
      lines? isLiteral indent fuel ⟨text, pending, breaks, startsBlank⟩ next
    else some (lines, cursor)

/-- A block scalar whose indicator has been taken; `parent` is the column of
the block around it, which its lines have to be further in than. -/
def read? (isLiteral : Bool) (parent : Option Nat) (cursor : Cursor) : Option ScalarText := do
  let (header, cursor) ← header? cursor
  let cursor ← cursor.finishLine?
  let fixed := header.increment.map (parent.getD 0 + ·)
  let (breaks, deepest, cursor) ← blankLines? fixed (cursor.rest.length + 1) [] 0 cursor
  let least := match parent with
    | some column => column + 1
    | none => 1
  let indent := fixed.getD (max deepest least)
  let (lines, cursor) ← lines? isLiteral indent (cursor.rest.length + 1) { breaks := breaks } cursor
  let tail := match header.chomping with
    | .strip => []
    | .clip => lines.pending
    | .keep => lines.pending ++ lines.breaks
  return ⟨lines.text ++ tail, true, cursor⟩

end Block

end CallCapture.Yaml
