import CallCapture.Json.Cursor
import CallCapture.Text.ByteLength
import CallCapture.Text.Hex

namespace CallCapture.Json

/-- The number is the first half of a pair that stands for one character. The
second half has to follow in an escape of its own. -/
def isHighSurrogate (n : Nat) : Bool := 0xd800 ≤ n && n ≤ 0xdbff

/-- The number is the second half of a pair, and nothing by itself. No escape
may begin with it. -/
def isLowSurrogate (n : Nat) : Bool := 0xdc00 ≤ n && n ≤ 0xdfff

/-- The character that a pair of surrogates stands for. These are
the characters beyond the first 65536, which one escape of four
digits cannot hold. -/
def surrogatePair (high low : Nat) : Char :=
  Char.ofNat ((high - 0xd800) * 0x400 + (low - 0xdc00) + 0x10000)

/-- The place `bytes` bytes further on; a character may be cut in two. Escapes
are cut off the text by bytes, before anyone knows what the bytes are. -/
def placeAfterBytes : (bytes : Nat) → List Char → Place → Place
  | 0, _, place => place
  | _, [], place => place
  | bytes + 1, c :: rest, place =>
    if c.utf8Size ≤ bytes + 1 then placeAfterBytes (bytes + 1 - c.utf8Size) rest (place.after c)
    else ⟨place.line, place.column + bytes + 1⟩

namespace Reader

/-- The four hexadecimal digits of an escape. They are taken together, so the
fault is behind all four if one of them is wrong. -/
def hexEscape : Reader Nat := do
  let cursor ← get
  if byteLength cursor.rest < 4 then
    throw ⟨.eofInText, placeAfterBytes (byteLength cursor.rest) cursor.rest cursor.place⟩
  match hexValue? (cursor.rest.take 4) with
  | none => throw ⟨.invalidEscape, placeAfterBytes 4 cursor.rest cursor.place⟩
  | some n =>
    set { rest := cursor.rest.drop 4, place := placeAfterBytes 4 cursor.rest cursor.place : Cursor }
    return n

/-- The next character has to be `wanted`, as a high surrogate is open. A
backslash and then a `u` are wanted, in front of the second half. -/
def surrogateMark (wanted : Char) : Reader Unit := do
  match ← peek? with
  | none => failHere .eofInText
  | some c => if c = wanted then step else failNext .unfinishedSurrogate

/-- A character given by its number, in one escape or in two. Two escapes make
one character only as the two halves of a pair, in their order. -/
def unicodeEscape : Reader Char := do
  let n ← hexEscape
  if isLowSurrogate n then failHere .loneSurrogate
  else if isHighSurrogate n then
    surrogateMark '\\'
    surrogateMark 'u'
    let low ← hexEscape
    if isLowSurrogate low then return surrogatePair n low
    else failHere .loneSurrogate
  else return Char.ofNat n

/-- The character that a letter stands for behind a backslash, if
it stands for one. -/
def shortEscape? (c : Char) : Option Char :=
  if c = '"' ∨ c = '\\' ∨ c = '/' then some c
  else if c = 'b' then some '\x08'
  else if c = 'f' then some '\x0c'
  else if c = 'n' then some '\n'
  else if c = 'r' then some '\r'
  else if c = 't' then some '\t'
  else none

/-- One character of a literal, or `none` for the quote that closes it.
Control characters have to be escaped. -/
def textUnit : Reader (Option Char) := do
  match ← peek? with
  | none => failHere .eofInText
  | some c =>
    if c = '"' then
      step
      return none
    else if c = '\\' then
      step
      match ← peek? with
      | none => failHere .eofInText
      | some e =>
        match shortEscape? e with
        | some value =>
          step
          return some value
        | none =>
          if e = 'u' then
            step
            return some (← unicodeEscape)
          else failNext .invalidEscape
    else if c.toNat < 0x20 then failNext .controlCharacter
    else
      step
      return some c

/-- The characters of a literal up to the quote that closes it. A text that
ends before the quote is at fault at its end. -/
def textUnits : (fuel : Nat) → Reader (List Char)
  | 0 => failHere .eofInText
  | fuel + 1 => do
    match ← textUnit with
    | none => return []
    | some c => return c :: (← textUnits fuel)

/-- A literal whose opening quote has been taken. The fuel is more than what
is left of the text, as every character of the literal takes some of it. -/
def textBody : Reader String := do
  return String.ofList (← textUnits ((← sizeLeft) + 1))

/-- As `textUnit` for a literal that nobody looks at: surrogates may
stand alone in it. -/
def ignoredUnit : Reader Bool := do
  match ← peek? with
  | none => failHere .eofInText
  | some c =>
    if c = '"' then
      step
      return false
    else if c = '\\' then
      step
      match ← peek? with
      | none => failHere .eofInText
      | some e =>
        if (shortEscape? e).isSome then
          step
          return true
        else if e = 'u' then
          step
          discard hexEscape
          return true
        else failNext .invalidEscape
    else if c.toNat < 0x20 then failHere .controlCharacter
    else
      step
      return true

/-- The characters of a literal that nobody looks at, up to the
quote that closes it. -/
def ignoredUnits : (fuel : Nat) → Reader Unit
  | 0 => failHere .eofInText
  | fuel + 1 => do
    if ← ignoredUnit then ignoredUnits fuel

/-- A literal that nobody looks at, its opening quote taken. Its escapes have
to be well formed all the same. -/
def ignoredText : Reader Unit := do
  ignoredUnits ((← sizeLeft) + 1)

end Reader

/-- How a character is written in a literal. Only quotes, backslashes and
control characters are escaped; all others stand for themselves. -/
def escaped (c : Char) : List Char :=
  if c = '"' then ['\\', '"']
  else if c = '\\' then ['\\', '\\']
  else if c = '\x08' then ['\\', 'b']
  else if c = '\x0c' then ['\\', 'f']
  else if c = '\n' then ['\\', 'n']
  else if c = '\r' then ['\\', 'r']
  else if c = '\t' then ['\\', 't']
  else if c.toNat < 0x10 then '\\' :: 'u' :: '0' :: '0' :: '0' :: Nat.toDigits 16 c.toNat
  else if c.toNat < 0x20 then '\\' :: 'u' :: '0' :: '0' :: Nat.toDigits 16 c.toNat
  else [c]

/-- A text as it is written, between quotes. Only what must not stand in a
literal as it is is escaped. -/
def literal (text : String) : List Char := '"' :: text.toList.flatMap escaped ++ ['"']

end CallCapture.Json
