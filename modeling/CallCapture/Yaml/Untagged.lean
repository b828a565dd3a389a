import CallCapture.Decimal.Text
import CallCapture.Text.Hex
import CallCapture.Text.Quoted

namespace CallCapture.Yaml

/-- What a scalar can stand for. Integers that need more than 64 bits are
apart, as messages name them otherwise. -/
inductive Meaning where
  | null
  | bool (b : Bool)
  | integer (n : Int)
  | wideInteger (n : Int)
  | float (f : Float)
  | text (s : String)
  deriving Inhabited

/-- How messages name a value. Integers beyond 64 bits are named with the
width that holds them. -/
def Meaning.describe : Meaning → String
  | null => "unit value"
  | bool b => if b then "boolean `true`" else "boolean `false`"
  | integer n => "integer `" ++ toString n ++ "`"
  | wideInteger n =>
    "integer `" ++ toString n ++ "` as " ++ (if 0 ≤ n then "u128" else "i128")
  | float f => "floating point `" ++ Decimal.floatText .plain f ++ "`"
  | text s => "string " ++ quoted s

namespace Untagged

/-- The words for no value. A scalar without any text means the same. -/
def isNull (text : String) : Bool := ["null", "Null", "NULL", "~"].contains text

/-- The words for the two truth values, each in three spellings. Other words
for them, such as `yes` and `no`, are texts. -/
def bool? (text : String) : Option Bool :=
  if ["true", "True", "TRUE"].contains text then some true
  else if ["false", "False", "FALSE"].contains text then some false
  else none

/-- The number that digits of the given base stand for. Letters of either case
are digits where the base is large enough, and no digits are no number. -/
def natOfBase? (base : Nat) (digits : List Char) : Option Nat :=
  if digits = [] then none
  else digits.foldlM
    (fun n c => (hexDigit? c).bind fun d => if d < base then some (base * n + d) else none) 0

/-- Digits with a zero too many in front, which are no number. A sign may
stand in front, and zero itself is not meant. -/
def isZeroLed (text : List Char) : Bool :=
  let digits := match text with
    | '-' :: rest => rest
    | '+' :: rest => rest
    | rest => rest
  digits.length > 1 && digits.head? == some '0' && digits.all Char.isDigit

/-- An integer without its sign: decimal, or with `0x`, `0o` or `0b` in front.
The marks of the bases are in small letters only. -/
def magnitude? : List Char → Option Nat
  | '0' :: 'x' :: digits => natOfBase? 16 digits
  | '0' :: 'o' :: digits => natOfBase? 8 digits
  | '0' :: 'b' :: digits => natOfBase? 2 digits
  | digits => natOfBase? 10 digits

/-- An integer with its sign. One with a zero too many in front is a text. The
base may be marked behind the sign. -/
def integer? (text : List Char) : Option Int :=
  if isZeroLed text then none
  else match text with
    | '-' :: rest => (magnitude? rest).map fun n => -(n : Int)
    | '+' :: rest => (magnitude? rest).map Int.ofNat
    | rest => (magnitude? rest).map Int.ofNat

/-- The integers that 64 bits hold, with a sign or without, and those
that 128 bits hold. -/
def meaningOfInteger? (n : Int) : Option Meaning :=
  if -0x8000000000000000 ≤ n ∧ n ≤ 0xffffffffffffffff then some (.integer n)
  else if -0x80000000000000000000000000000000 ≤ n ∧ n ≤ 0xffffffffffffffffffffffffffffffff then
    some (.wideInteger n)
  else none

/-- A decimal number, or one of the names of the infinities and of NaN. With a
tag a zero too many may stand in front. -/
def taggedFloat? (text : String) : Option Float :=
  if [".inf", ".Inf", ".INF", "+.inf", "+.Inf", "+.INF"].contains text then some (1 / 0)
  else if ["-.inf", "-.Inf", "-.INF"].contains text then some (-1 / 0)
  else if [".nan", ".NaN", ".NAN"].contains text then some (0 / 0)
  else Decimal.finiteFloat? text.toList

/-- A number without a tag, which has no zero too many in front. Other readers
take such digits for a number, so they are left to be a text. -/
def float? (text : String) : Option Float :=
  if isZeroLed text.toList then none else taggedFloat? text

/-- What a plain scalar without a tag means: the first that fits of no value,
a truth value, an integer, a number and a text. -/
def meaning (text : String) : Meaning :=
  if text = "" ∨ isNull text then .null
  else
    match bool? text with
    | some b => .bool b
    | none =>
      match (integer? text.toList).bind meaningOfInteger? with
      | some integer => integer
      | none =>
        match float? text with
        | some f => .float f
        | none => .text text

/-- A text that would not be read back as a text if it stood plain. Digits
with a zero too many are counted among them: others read them as numbers. -/
def isAmbiguous (text : String) : Bool :=
  match meaning text with
  | .text _ => isZeroLed text.toList
  | _ => true

end Untagged

end CallCapture.Yaml
