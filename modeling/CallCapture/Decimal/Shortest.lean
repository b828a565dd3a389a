namespace CallCapture.Decimal

/-- The number `digits * 10 ^ scale`. Two of them can be the same number, with
zeros moved between digits and scale. -/
structure Digits where
  digits : Nat
  scale : Int
  deriving DecidableEq, Inhabited

/-- The positive number `mantissa * 2 ^ exponent`. When `narrow` holds, the
next smaller double is only half as far away as the next larger one. -/
structure Binary where
  mantissa : Nat
  exponent : Int
  narrow : Bool
  deriving DecidableEq, Inhabited

/-- The size of a finite double, from its bits: 52 of a fraction and 11 of an
exponent. The sign is left out. -/
def Binary.ofBits (bits : UInt64) : Binary :=
  let fraction := bits.toNat % 0x10000000000000
  let biased := bits.toNat / 0x10000000000000 % 0x800
  if biased = 0 then ⟨fraction, -1074, false⟩
  else ⟨fraction + 0x10000000000000, (biased : Int) - 1075, fraction == 0 && biased > 1⟩

/-- A nonnegative fraction. It need not be in lowest terms. The bounds of
a float are fractions, so that nothing is rounded when digits are
compared with them. -/
structure Fraction where
  num : Nat
  den : Nat

namespace Fraction

/-- The fraction `n * base ^ power`, for powers of either sign. A negative
power goes into the denominator. -/
def scaled (n base : Nat) (power : Int) : Fraction :=
  if 0 ≤ power then ⟨n * Nat.pow base power.toNat, 1⟩ else ⟨n, Nat.pow base (-power).toNat⟩

/-- Whether one fraction is at most another, without a division. Both sides
are multiplied by the two denominators, which are positive. -/
def le (a b : Fraction) : Bool := a.num * b.den ≤ b.num * a.den

/-- Whether one fraction is less than another, without a division. Whether
a bound itself belongs to a float depends on its last bit, so both
comparisons are needed. -/
def lt (a b : Fraction) : Bool := a.num * b.den < b.num * a.den

/-- The whole part of `a * 10 ^ power`. For a power of either sign this is one
division of natural numbers. -/
def floorTimes (a : Fraction) (power : Int) : Nat :=
  if 0 ≤ power then a.num * Nat.pow 10 power.toNat / a.den
  else a.num / (a.den * Nat.pow 10 (-power).toNat)

end Fraction

namespace Binary

/-- The number itself, written with four times its mantissa, so that the ends
of its interval can be written on the same scale. -/
def value (b : Binary) : Fraction := .scaled (4 * b.mantissa) 2 (b.exponent - 2)

/-- The number is read back as `b`: it lies in the interval that rounds to
`b`, whose ends belong to it when the mantissa is even. -/
def readsBack (b : Binary) (number : Fraction) : Bool :=
  let low := Fraction.scaled (4 * b.mantissa - if b.narrow then 1 else 2) 2 (b.exponent - 2)
  let high := Fraction.scaled (4 * b.mantissa + 2) 2 (b.exponent - 2)
  if b.mantissa % 2 = 0 then low.le number && number.le high
  else low.lt number && number.lt high

/-- The least `k ≤ fuel` with `1 ≤ value * 10 ^ k`. It is asked of values
below one only, to find their leading digit. -/
def placesToOne (value : Fraction) : (fuel : Nat) → (k : Nat) → Nat
  | 0, k => k
  | fuel + 1, k => if value.floorTimes k = 0 then placesToOne value fuel (k + 1) else k

/-- The decimal exponent of the leading digit. Above one it is read off the
length of the whole part, below one it is searched for. -/
def leadingExponent (b : Binary) : Int :=
  let whole := b.value.floorTimes 0
  if whole = 0 then -(placesToOne b.value 330 1 : Int) else ((Nat.toDigits 10 whole).length : Int) - 1

/-- The neighbours of `b` on the grid of step `10 ^ scale` that read back as
`b`, the nearer one; of two equally near ones the even one. -/
def onGrid? (b : Binary) (scale : Int) : Option Digits :=
  let below := b.value.floorTimes (-scale)
  let above := below + 1
  let fits (n : Nat) : Bool := n != 0 && b.readsBack (.scaled n 10 scale)
  let middle := Fraction.scaled (5 * (2 * below + 1)) 10 (scale - 1)
  if fits below && (!fits above || b.value.lt middle || (b.value.le middle && below % 2 == 0)) then
    some ⟨below, scale⟩
  else if fits above then some ⟨above, scale⟩
  else none

/-- The fewest digits that still name the given double, the nearest such
digits if there are several. Grids are tried from coarse to fine; seventeen
digits always suffice. -/
def shortest (b : Binary) : Digits :=
  let top := b.leadingExponent
  ((List.range 17).findSome? fun (n : Nat) => b.onGrid? (top - n)).getD ⟨b.value.floorTimes (16 - top), top - 16⟩

end Binary

/-- Moves trailing zeros of the digits into the scale. Zero keeps its one
digit. -/
def Digits.trimmed (number : Digits) : (fuel : Nat) → Digits
  | 0 => number
  | fuel + 1 =>
    if number.digits % 10 = 0 ∧ number.digits ≠ 0 then
      Digits.trimmed ⟨number.digits / 10, number.scale + 1⟩ fuel
    else number

end CallCapture.Decimal
