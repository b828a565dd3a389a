import CallCapture.Decimal.Text
import CallCapture.Json.Cursor

namespace CallCapture.Json

/-- A number that stands where something else was wanted. No type that is kept
holds one; they are read to be named in a message, or to be passed over. -/
inductive Number where
  | whole (n : Int)
  | float (f : Float)
  deriving Inhabited

/-- How a message names a number: what kind it is, and its text. Where a text
or a record was wanted, this is all that is left of the number. -/
def Number.describe : Number → String
  | whole n => "integer `" ++ toString n ++ "`"
  | float f => "floating point `" ++ Decimal.floatText .scientific f ++ "`"

/-- The largest number of 64 bits. Digits that go beyond it are not
taken into an integer. -/
def maxWord : Nat := 0xffffffffffffffff

/-- Appends digits to `significand` as long as it fits into a word; how many
were taken. The others only count for the exponent. -/
def extendSignificand (significand : Nat) : (digits : List Char) → (taken : Nat) → Nat × Nat
  | [], taken => (significand, taken)
  | c :: digits, taken =>
    let next := 10 * significand + (c.toNat - '0'.toNat)
    if next ≤ maxWord then extendSignificand next digits (taken + 1) else (significand, taken)

/-- The number `f * 10 ^ exponent` in steps of at most `10 ^ 308`, or nothing
if it is too large. -/
def scaleFloat : (fuel : Nat) → Float → Int → Option Float
  | 0, f, _ => some f
  | fuel + 1, f, exponent =>
    if exponent.natAbs ≤ 308 then
      let power := Float.ofScientific 1 false exponent.natAbs
      if 0 ≤ exponent then
        if (f * power).isInf then none else some (f * power)
      else some (f / power)
    else if f == 0 then some f
    else if 0 ≤ exponent then none
    else scaleFloat fuel (f / Float.ofScientific 1 false 308) (exponent + 308)

namespace Reader

/-- A float out of its sign, its digits and its exponent. One that is too
large is a fault behind its text. -/
def floatOfParts (positive : Bool) (significand : Nat) (exponent : Int) : Reader Number := do
  match scaleFloat 8 (Float.ofNat significand) exponent with
  | none => failHere .numberOutOfRange
  | some f => return .float (if positive then f else -f)

/-- The digits of an exponent; `none` once it no longer fits into 31
bits. Then the number is out of all range or zero, and the digits that
are left do not matter. -/
def exponentDigits : (fuel : Nat) → (exponent : Nat) → Reader (Option Nat)
  | 0, exponent => return some exponent
  | fuel + 1, exponent => do
    match ← peek? with
    | none => return some exponent
    | some c =>
      if c.isDigit then
        step
        let next := 10 * exponent + (c.toNat - '0'.toNat)
        if next < 0x80000000 then exponentDigits fuel next else return none
      else return some exponent

/-- The sign of an exponent, which may be missing: whether it makes
the number larger. -/
def exponentSign : Reader Bool := do
  match ← peek? with
  | some '+' =>
    step
    return true
  | some '-' =>
    step
    return false
  | _ => return true

/-- What an exponent makes of the digits in front of it, from its mark on.
An exponent of any size is allowed to zero, and to others as long as it
makes them small. -/
def exponentPart (positive : Bool) (significand : Nat) (start : Int) : Reader Number := do
  step
  let upwards ← exponentSign
  match ← peek? with
  | none => failHere .eofInValue
  | some c =>
    if c.isDigit then
      match ← exponentDigits (← sizeLeft) 0 with
      | some exponent => floatOfParts positive significand (if upwards then start + exponent else start - exponent)
      | none =>
        if significand ≠ 0 ∧ upwards then failHere .numberOutOfRange
        else
          discard digits
          return .float (if positive then 0 else -0)
    else failNext .invalidNumber

/-- An exponent follows. Both cases of its mark are allowed. Anything else
behind the digits is no part of the number. -/
def isExponentMark (c : Option Char) : Bool := c == some 'e' || c == some 'E'

/-- A fraction, from its point on, and what may follow it. A point without a
digit behind it is at fault, and so is one at the end of the text. -/
def fractionPart (positive : Bool) (significand : Nat) (before : Int) : Reader Number := do
  step
  let found ← digits
  if found = [] then
    match ← peek? with
    | none => failNext .eofInValue
    | some _ => failNext .invalidNumber
  else
    let (significand, taken) := extendSignificand significand found 0
    if isExponentMark (← peek?) then exponentPart positive significand (before - taken)
    else floatOfParts positive significand (before - taken)

/-- What follows the whole part of a number. Negative zero, and negative
integers beyond 64 bits, are floats. -/
def numberTail (positive : Bool) (significand dropped : Nat) : Reader Number := do
  let next ← peek?
  if next = some '.' then fractionPart positive significand dropped
  else if isExponentMark next then exponentPart positive significand dropped
  else if dropped ≠ 0 then floatOfParts positive significand dropped
  else if positive then return .whole significand
  else if significand = 0 ∨ significand > 0x8000000000000000 then return .float (-(Float.ofNat significand))
  else return .whole (-significand)

/-- A number whose sign has been taken. It has no zeros in front. A zero is
followed by a fraction, by an exponent or by the end of the number. -/
def number (positive : Bool) : Reader Number := do
  match ← peek? with
  | none => failHere .eofInValue
  | some c =>
    if c = '0' then
      step
      if (← peek?).any Char.isDigit then failNext .invalidNumber
      else numberTail positive 0 0
    else if c.isDigit then
      let found ← digits
      let (significand, taken) := extendSignificand 0 found 0
      numberTail positive significand (found.length - taken)
    else failNext .invalidNumber

/-- An exponent that nobody looks at: only that it has digits counts. Its size
cannot be at fault, as no number is made of it. -/
def ignoredExponent : Reader Unit := do
  step
  discard exponentSign
  match ← peek? with
  | none => failHere .invalidNumber
  | some c => if c.isDigit then discard digits else failNext .invalidNumber

/-- A fraction that nobody looks at, from its point on: only that it
has digits counts. -/
def ignoredFraction : Reader Unit := do
  step
  if (← digits) = [] then failNext .invalidNumber
  else if isExponentMark (← peek?) then ignoredExponent

/-- A number that nobody looks at, its sign taken: only its form counts. No
number is too large here. -/
def ignoredNumber : Reader Unit := do
  match ← peek? with
  | none => failHere .invalidNumber
  | some c =>
    if c = '0' then
      step
      if (← peek?).any Char.isDigit then failNext .invalidNumber
    else if c.isDigit then discard digits
    else failNext .invalidNumber
  let next ← peek?
  if next = some '.' then ignoredFraction
  else if isExponentMark next then ignoredExponent

end Reader

end CallCapture.Json
