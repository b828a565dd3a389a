import CallCapture.Decimal.Shortest

namespace CallCapture.Decimal

/-- Where positional notation is given up for an exponent: numbers whose
leading digit has an exponent from `lowest` to `highest` are written
positionally, all of them where no bound is set. -/
structure FloatStyle where
  lowest : Option Int
  highest : Option Int

/-- Whether a number with this exponent is written positionally. A style
without bounds writes every number so. -/
def FloatStyle.isPositional (style : FloatStyle) (exponent : Int) : Bool :=
  style.lowest.all (· ≤ exponent) && style.highest.all (exponent ≤ ·)

/-- Numbers in messages about preference documents. They are written without
an exponent, whatever their size. -/
def FloatStyle.plain : FloatStyle := ⟨none, none⟩

/-- Numbers in messages about JSON texts. Very small and very large ones have
an exponent there. -/
def FloatStyle.scientific : FloatStyle := ⟨some (-5), some 15⟩

/-- As many zeros, to fill the places between digits and point. A large number
has them behind its digits, a small one in front. -/
def zeros (n : Nat) : List Char := List.replicate n '0'

/-- A sign, always, and as many digits as it takes. Zeros are never put in
front of the digits. -/
def exponentText (exponent : Int) : List Char :=
  (if exponent < 0 then '-' else '+') :: Nat.toDigits 10 exponent.natAbs

/-- A positive number; a point always stands in it unless an exponent does.
Its digits are trimmed first, so that one number is written in one way. -/
def Digits.text (style : FloatStyle) (number : Digits) : List Char :=
  let number := number.trimmed 400
  let digits := Nat.toDigits 10 number.digits
  let exponent := (digits.length : Int) - 1 + number.scale
  if style.isPositional exponent then
    if 0 ≤ number.scale then digits ++ zeros number.scale.toNat ++ ['.', '0']
    else if 0 ≤ exponent then
      digits.take (exponent.toNat + 1) ++ '.' :: digits.drop (exponent.toNat + 1)
    else '0' :: '.' :: zeros (-exponent - 1).toNat ++ digits
  else
    digits.take 1 ++ (if digits.length > 1 then '.' :: digits.drop 1 else []) ++ 'e' :: exponentText exponent

/-- A float as messages show it, by the fewest digits that name it.
Zeros keep their sign. -/
def floatText (style : FloatStyle) (f : Float) : String :=
  if f.isNaN then "NaN"
  else
    let bits := f.toBits
    let sign := if bits.toNat ≥ 0x8000000000000000 then ['-'] else []
    let size : List Char :=
      if f.isInf then ['i', 'n', 'f']
      else if (Binary.ofBits bits).mantissa = 0 then ['0', '.', '0']
      else (Binary.ofBits bits).shortest.text style
    String.ofList (sign ++ size)

/-- The double nearest to `digits * 10 ^ scale`. Numbers far out of range
are settled first. -/
def Digits.toFloat (number : Digits) : Float :=
  let exponent := ((Nat.toDigits 10 number.digits).length : Int) + number.scale
  if number.digits = 0 ∨ exponent < -400 then 0
  else if exponent > 400 then 1 / 0
  else Float.ofScientific number.digits (number.scale < 0) number.scale.natAbs

/-- The number that some digits stand for; none stand for zero. Whether they
are digits has been looked at before. -/
def digitsToNat (digits : List Char) : Nat :=
  digits.foldl (fun n c => 10 * n + (c.toNat - '0'.toNat)) 0

/-- An exponent part at the end of a number, or nothing. A mark without a
digit behind it is none, and then the text is no number. -/
def exponentPart? : List Char → Option Int
  | [] => some 0
  | c :: rest =>
    if c = 'e' ∨ c = 'E' then
      let (negative, digits) := match rest with
        | '-' :: digits => (true, digits)
        | '+' :: digits => (false, digits)
        | digits => (false, digits)
      if digits ≠ [] ∧ digits.all Char.isDigit then
        some (if negative then -(digitsToNat digits : Int) else digitsToNat digits)
      else none
    else none

/-- Digits with at most one point, and an exponent if wanted: `1`,
`1.`, `.5`, `1.5e-3`. -/
def unsigned? (text : List Char) : Option Digits :=
  let whole := text.takeWhile Char.isDigit
  let rest := text.dropWhile Char.isDigit
  let (fraction, rest) := match rest with
    | '.' :: rest => (rest.takeWhile Char.isDigit, rest.dropWhile Char.isDigit)
    | rest => ([], rest)
  if whole = [] ∧ fraction = [] then none
  else
    (exponentPart? rest).map fun exponent =>
      ⟨digitsToNat (whole ++ fraction), exponent - fraction.length⟩

/-- A decimal number with an optional sign, if it is not too
large for a double. -/
def finiteFloat? (text : List Char) : Option Float :=
  let (negative, size) := match text with
    | '-' :: size => (true, size)
    | '+' :: size => (false, size)
    | size => (false, size)
  (unsigned? size).bind fun digits =>
    let f := digits.toFloat
    if f.isInf then none else some (if negative then -f else f)

end CallCapture.Decimal
