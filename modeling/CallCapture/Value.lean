import CallCapture.Signature

namespace CallCapture

/-- The values that workloads compute with: numbers of two kinds, texts,
lists and dictionaries. Entries of a dictionary are found by name, in
whatever order they stand. -/
inductive Value where
  | null
  | bool (b : Bool)
  | int (i : Int64)
  | float (f : Float)
  | text (s : String)
  | array (items : List Value)
  | dict (entries : List (String × Value))
  deriving Inhabited

namespace Value

/-- The type of a value as it stands in a signature. It is read off the
constructor, so the items of a list and the entries of a dictionary
have no part in it. -/
def typeName : Value → String
  | null => "Nothing"
  | bool _ => "Bool"
  | int _ => "Int64"
  | float _ => "Float64"
  | text _ => "String"
  | array _ => "Vector"
  | dict _ => "Dict"

/-- The integer that a value is, if it is one. Floats are never taken for
integers. Where a number is wanted, anything else counts as zero. -/
def asInt? : Value → Option Int64
  | int i => some i
  | _ => none

/-- The number that a value is, if it is one. Integers count as floats,
rounded to the nearest. -/
def asFloat? : Value → Option Float
  | float f => some f
  | int i => some i.toFloat
  | _ => none

/-- The items of a list. No other value has any, not even a dictionary. Its
items are given as they are, in their order. -/
def asArray? : Value → Option (List Value)
  | array items => some items
  | _ => none

mutual

/-- Equality of values: floats as numbers, so that no NaN equals another;
dictionaries without regard to order. -/
def same : Value → Value → Bool
  | null, null => true
  | bool a, bool b => a == b
  | int a, int b => a == b
  | float a, float b => a == b
  | text a, text b => a == b
  | array xs, array ys => sameItems xs ys
  | dict xs, dict ys => xs.length == ys.length && sameEntries xs ys
  | _, _ => false

/-- Two lists of values are the same, item by item, and neither has any left
over. The same items in another order are another list. -/
def sameItems : List Value → List Value → Bool
  | [], [] => true
  | x :: xs, y :: ys => same x y && sameItems xs ys
  | _, _ => false

/-- Every entry of the first dictionary is to be found in the second, with the
same value. As many entries on both sides make it an equality. -/
def sameEntries : List (String × Value) → List (String × Value) → Bool
  | [], _ => true
  | (key, x) :: xs, ys =>
    (match ys.lookup key with
      | some y => same x y
      | none => false) && sameEntries xs ys

end

end Value

/-- The signature that a call with these arguments resolves to: the routine,
and the types of the arguments in order. -/
def Signature.ofCall (routine : String) (args : List Value) : Signature where
  routine := routine
  argTypes := args.map Value.typeName

end CallCapture
