import CallCapture.Json.Fault

namespace CallCapture.Json

/-- Where a reader is in a text: what is left of it, and the place reached,
which messages name. -/
structure Cursor where
  rest : List Char
  place : Place := {}
  deriving DecidableEq, Inhabited

namespace Cursor

/-- The start of a text. Places are counted from its first line, of which
nothing has been read. -/
def ofString (text : String) : Cursor := { rest := text.toList }

/-- One character further, or nowhere at the end. The place follows: it is
behind the character as well. -/
def step (cursor : Cursor) : Cursor :=
  match cursor.rest with
  | [] => cursor
  | c :: rest => ⟨rest, cursor.place.after c⟩

/-- The place behind the next byte, or the present one at the end. A character
that is at fault is named by its first byte. -/
def nextPlace (cursor : Cursor) : Place :=
  match cursor.rest with
  | [] => cursor.place
  | c :: _ => cursor.place.afterByte c

/-- The four characters that may stand between any two parts of a text. This
is fewer than white space elsewhere. -/
def isSpace (c : Char) : Bool := c == ' ' || c == '\n' || c == '\t' || c == '\r'

/-- The first character from here on that is no space, or the end, with its
place. -/
def skipSpaceFrom : List Char → Place → Cursor
  | [], place => ⟨[], place⟩
  | c :: rest, place => if isSpace c then skipSpaceFrom rest (place.after c) else ⟨c :: rest, place⟩

/-- Goes to the next character that is no space, or to the end. Line feeds
among the space begin new lines for the places. -/
def skipSpace (cursor : Cursor) : Cursor := skipSpaceFrom cursor.rest cursor.place

end Cursor

/-- A reader takes a value off the front of the text or says what is wrong.
What is left is for the readers behind it. -/
abbrev Reader := StateT Cursor (Except Fault)

namespace Reader

/-- Fails at the place reached. So fail readers that have taken
what is at fault. -/
def failHere {α : Type} (problem : Problem) : Reader α := do
  throw ⟨problem, (← get).place⟩

/-- Fails with the next byte as the offending one. So fail readers that
have only looked at what is at fault; at the end of the text this is
the place reached. -/
def failNext {α : Type} (problem : Problem) : Reader α := do
  throw ⟨problem, (← get).nextPlace⟩

/-- Takes the next character, which has been looked at. Readers look before
they take, as a character that is at fault has a place of its own. -/
def step : Reader Unit := modify Cursor.step

/-- The next character, which stays where it is. At the end there is none, and
what that means is up to the reader. -/
def peek? : Reader (Option Char) := do
  return (← get).rest.head?

/-- The next character that is not white space. The space in
front of it is taken. -/
def peekSolid? : Reader (Option Char) := do
  modify Cursor.skipSpace
  peek?

/-- All digits up to the next character that is none; there may be
no digits at all. -/
def digits : Reader (List Char) := do
  let found := (← get).rest.takeWhile Char.isDigit
  modify fun cursor =>
    ⟨cursor.rest.dropWhile Char.isDigit, ⟨cursor.place.line, cursor.place.column + found.length⟩⟩
  return found

/-- The rest of a word whose first letter decided which one it is.
It is compared letter by letter, so the fault is at the first
letter that is wrong. -/
def ident : List Char → Reader Unit
  | [] => pure ()
  | wanted :: word => do
    match ← peek? with
    | none => failHere .eofInValue
    | some c =>
      if c = wanted then
        step
        ident word
      else failNext .expectedIdent

/-- What is left of a reader's input bounds the number of steps that it can
take, since each takes a character. -/
def sizeLeft : Reader Nat := do
  return (← get).rest.length

end Reader

end CallCapture.Json
