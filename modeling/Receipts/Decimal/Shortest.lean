/-!
# Shortest decimals

A positive binary fraction is one of the values of its format, and the reals
that round to it form an interval. The shortest decimal of the fraction is the
one with the fewest digits in that interval, the nearest of several, and of two
that are equally near the even one. Everything is computed in exact natural
arithmetic: all sides are scaled to whole numbers of a quarter of the last
binary place.
-/

namespace Receipts.Decimal

/-- The number `mantissa · 2 ^ exponent`. `narrow` tells that the next smaller value of the format
is only half as far away as the next larger one. -/
structure Binary where
  mantissa : Nat
  exponent : Int
  narrow : Bool
  deriving Repr, DecidableEq

/-- The number `digits · 10 ^ exponent`. -/
structure Value where
  digits : Nat
  exponent : Int
  deriving Repr, DecidableEq

namespace Binary

/-- `n` quarters of the last place, over `denominator`. -/
def scaled (b : Binary) (n : Nat) : Nat :=
  n * Nat.pow 2 (b.exponent - 2).toNat

/-- The common denominator of the scaled numbers. -/
def denominator (b : Binary) : Nat :=
  Nat.pow 2 (2 - b.exponent).toNat

/-- The value in quarters of its last place. -/
def quarters (b : Binary) : Nat := 4 * b.mantissa

/-- The lower end of the interval in quarters of the last place. -/
def lowerEnd (b : Binary) : Nat := b.quarters - (if b.narrow then 1 else 2)

/-- The upper end of the interval in quarters of the last place. -/
def upperEnd (b : Binary) : Nat := b.quarters + 2

/-- The ends themselves round to an even mantissa. -/
def endsIncluded (b : Binary) : Bool := b.mantissa % 2 == 0

/-- Whether `d` rounds to `b`. -/
def holds (b : Binary) (d : Value) : Bool :=
  let point := d.digits * Nat.pow 10 d.exponent.toNat * b.denominator
  let lower := b.scaled b.lowerEnd * Nat.pow 10 (-d.exponent).toNat
  let upper := b.scaled b.upperEnd * Nat.pow 10 (-d.exponent).toNat
  if b.endsIncluded then lower ≤ point && point ≤ upper else lower < point && point < upper

/-- The exponent of the power of ten at or below the value. -/
def leadingExponent (b : Binary) : Int :=
  let top := b.scaled b.quarters
  let guess : Int := (toString top).length - (toString b.denominator).length
  let bottom := b.denominator * Nat.pow 10 guess.toNat
  if bottom ≤ top * Nat.pow 10 (-guess).toNat then guess else guess - 1

/-- The numerator of the value in units of `10 ^ exponent`. -/
def gridTop (b : Binary) (exponent : Int) : Nat :=
  b.scaled b.quarters * Nat.pow 10 (-exponent).toNat

/-- The denominator of the value in units of `10 ^ exponent`. -/
def gridBottom (b : Binary) (exponent : Int) : Nat :=
  b.denominator * Nat.pow 10 exponent.toNat

/-- The multiple of `10 ^ exponent` at or below the value. -/
def floorOn (b : Binary) (exponent : Int) : Value :=
  ⟨b.gridTop exponent / b.gridBottom exponent, exponent⟩

/-- The nearer of the two multiples of `10 ^ exponent` around the value that round to it, if one
does. -/
def onGrid? (b : Binary) (exponent : Int) : Option Value :=
  let top := b.gridTop exponent
  let bottom := b.gridBottom exponent
  let below := b.floorOn exponent
  let above : Value := ⟨below.digits + 1, exponent⟩
  match b.holds below, b.holds above with
  | true, false => some below
  | false, true => some above
  | false, false => none
  | true, true =>
      let twice := 2 * top
      let middle := (2 * below.digits + 1) * bottom
      if twice < middle then some below
      else if middle < twice then some above
      else if below.digits % 2 == 0 then some below else some above

/-- The shortest decimal on the grid of `10 ^ exponent` or one of the next `finer` ones. A value
with no decimal on any of them is cut off at the last. -/
def shortestFrom (b : Binary) (exponent : Int) : Nat → Value
  | 0 => (b.onGrid? exponent).getD (b.floorOn exponent)
  | finer + 1 =>
      match b.onGrid? exponent with
      | some d => d
      | none => shortestFrom b (exponent - 1) finer

/-- The shortest decimal of a value. Seventeen digits always suffice for 53 binary places: those of
the leading grid and of sixteen finer ones. -/
def shortest (b : Binary) : Value :=
  shortestFrom b b.leadingExponent 16

end Binary

/-- The value of the bit before the 52 written ones of a mantissa. -/
def Binary.leadingBit : Nat := 0x10000000000000

/-- The parts of a positive finite number in the 64-bit format, sign bit aside. -/
def Binary.ofBits (bits : Nat) : Binary :=
  let fraction : Nat := bits % leadingBit
  let biased : Nat := bits / leadingBit % 0x800
  if biased = 0 then ⟨fraction, -1074, false⟩
  else ⟨leadingBit + fraction, (biased : Int) - 1075, fraction == 0 && biased != 1⟩

end Receipts.Decimal
