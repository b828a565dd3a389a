namespace CallCapture.Json

/-- A line, counted from one, and the number of bytes of it that were read. A
column is no number of characters: those beyond ASCII have several bytes. -/
structure Place where
  line : Nat := 1
  column : Nat := 0
  deriving DecidableEq, Inhabited

namespace Place

/-- The place after one more byte of `c`. A message names the first byte of a
character that is at fault, even if it has more. -/
def afterByte (place : Place) (c : Char) : Place :=
  if c = '\n' then ⟨place.line + 1, 0⟩ else ⟨place.line, place.column + 1⟩

/-- The place after all bytes of `c`. Only a line feed begins a line. -/
def after (place : Place) (c : Char) : Place :=
  if c = '\n' then ⟨place.line + 1, 0⟩ else ⟨place.line, place.column + c.utf8Size⟩

end Place

/-- What can be wrong with a text: it ends too early, it does not have the
form, or it holds something other than what is read. -/
inductive Problem where
  | eofInList
  | eofInObject
  | eofInText
  | eofInValue
  | expectedColon
  | expectedCommaInList
  | expectedCommaInObject
  | expectedIdent
  | expectedValue
  | invalidEscape
  | invalidNumber
  | numberOutOfRange
  | controlCharacter
  | keyNotText
  | loneSurrogate
  | unfinishedSurrogate
  | trailingComma
  | trailingCharacters
  | wrongType (got wanted : String)
  | wrongLength (length : Nat) (wanted : String)
  | missingField (name : String)
  | duplicateField (name : String)
  deriving DecidableEq, Inhabited

/-- The wording of what is wrong, without its place. Faults of the
text have a fixed wording; faults of its content name what was found
and what was wanted. -/
def Problem.message : Problem → String
  | eofInList => "EOF while parsing a list"
  | eofInObject => "EOF while parsing an object"
  | eofInText => "EOF while parsing a string"
  | eofInValue => "EOF while parsing a value"
  | expectedColon => "expected `:`"
  | expectedCommaInList => "expected `,` or `]`"
  | expectedCommaInObject => "expected `,` or `\x7d`"
  | expectedIdent => "expected ident"
  | expectedValue => "expected value"
  | invalidEscape => "invalid escape"
  | invalidNumber => "invalid number"
  | numberOutOfRange => "number out of range"
  | controlCharacter => "control character (\\u0000-\\u001F) found while parsing a string"
  | keyNotText => "key must be a string"
  | loneSurrogate => "lone leading surrogate in hex escape"
  | unfinishedSurrogate => "unexpected end of hex escape"
  | trailingComma => "trailing comma"
  | trailingCharacters => "trailing characters"
  | wrongType got wanted => "invalid type: " ++ got ++ ", expected " ++ wanted
  | wrongLength length wanted => "invalid length " ++ toString length ++ ", expected " ++ wanted
  | missingField name => "missing field `" ++ name ++ "`"
  | duplicateField name => "duplicate field `" ++ name ++ "`"

/-- What is wrong, and the place up to which the text had been read
when it was noticed. -/
structure Fault where
  problem : Problem
  place : Place
  deriving DecidableEq, Inhabited

/-- The wording of a fault, which names its place behind it. The place is all
that tells where in the text the fault is. -/
def Fault.message (fault : Fault) : String :=
  fault.problem.message ++ " at line " ++ toString fault.place.line ++ " column " ++
    toString fault.place.column

end CallCapture.Json
