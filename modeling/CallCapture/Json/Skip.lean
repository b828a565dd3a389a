import CallCapture.Json.Number
import CallCapture.Json.Text

namespace CallCapture.Json

/-- The two kinds of brackets, of lists and of objects. They differ in what
may stand in them and in how a fault is worded. -/
inductive Bracket where
  | list
  | object
  deriving DecidableEq, Inhabited

namespace Bracket

/-- The character that closes a bracket. A bracket of the other kind
does not close it. -/
def closing : Bracket → Char
  | list => ']'
  | object => '\x7d'

/-- What is wrong if the text ends before a bracket is closed. The message
names the innermost bracket that is open. -/
def eof : Bracket → Problem
  | list => .eofInList
  | object => .eofInObject

/-- What is wrong if neither a comma nor the end follows a value
within a bracket. -/
def expectedComma : Bracket → Problem
  | list => .expectedCommaInList
  | object => .expectedCommaInObject

end Bracket

namespace Reader

/-- The colon behind a key. Space may stand in front of it. -/
def colon : Reader Unit := do
  match ← peekSolid? with
  | some ':' => step
  | some _ => failNext .expectedColon
  | none => failNext .eofInObject

/-- A key that nobody looks at, with its colon. It has to be a text in its
quotes, like every other key. -/
def ignoredKey : Reader Unit := do
  match ← peekSolid? with
  | some '"' =>
    step
    ignoredText
    colon
  | some _ => failNext .keyNotText
  | none => failNext .eofInObject

mutual

/-- Passes over one value and all that is left of the brackets around
it. The brackets are a list, so values are passed over without a
limit on their depth. -/
def ignoredFrom : (fuel : Nat) → (around : List Bracket) → Reader Unit
  | 0, _ => failHere .eofInValue
  | fuel + 1, around => do
    match ← peekSolid? with
    | none => failNext .eofInValue
    | some c =>
      if c = '[' then
        step
        ignoredBehind fuel false (.list :: around)
      else if c = '\x7b' then
        step
        ignoredBehind fuel false (.object :: around)
      else
        if c = 'n' then
          step
          ident ['u', 'l', 'l']
        else if c = 't' then
          step
          ident ['r', 'u', 'e']
        else if c = 'f' then
          step
          ident ['a', 'l', 's', 'e']
        else if c = '-' then
          step
          ignoredNumber
        else if c.isDigit then ignoredNumber
        else if c = '"' then
          step
          ignoredText
        else failNext .expectedValue
        ignoredBehind fuel true around

/-- Goes on inside the innermost bracket; a comma may follow only where
a value has been. -/
def ignoredBehind : (fuel : Nat) → (afterValue : Bool) → (around : List Bracket) → Reader Unit
  | 0, _, _ => failHere .eofInValue
  | _ + 1, _, [] => return
  | fuel + 1, afterValue, bracket :: around => do
    match ← peekSolid? with
    | none => failNext bracket.eof
    | some c =>
      if c = bracket.closing then
        step
        ignoredBehind fuel true around
      else
        if afterValue then
          if c = ',' then step else failNext bracket.expectedComma
        if bracket = .object then ignoredKey
        ignoredFrom fuel (bracket :: around)

end

/-- Passes over one value that nobody looks at. It must have the form of a
value, and may be any. -/
def ignoredValue : Reader Unit := do
  ignoredFrom (2 * (← sizeLeft) + 2) []

end Reader

end CallCapture.Json
