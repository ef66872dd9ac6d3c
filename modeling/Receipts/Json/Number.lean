import Receipts.Decimal.Shortest

/-!
# JSON numbers

A number without fraction or exponent that fits 64 bits is kept as a whole
number. Every other number is held as a 64-bit binary fraction, named by its
bits, so that equality of numbers is equality of what is written.

A numeral is read by taking as many of its digits as fit 64 bits and scaling
once by a power of ten. This is exact for short numerals; for long ones it may
land on a neighbour of the nearest value, and readers of existing documents
rely on the value it lands on.
-/

namespace Receipts.Json

/-- A number of a document. -/
inductive Number where
  | whole (i : Int)
  | double (bits : UInt64)
  deriving DecidableEq, Repr

/-- The parts of a numeral as written, digits as numbers. -/
structure Numeral where
  negative : Bool
  whole : List Nat
  fraction : Option (List Nat)
  exponent : Option (Bool × List Nat)
  deriving DecidableEq, Repr

/-- The value of the highest of 64 bits. -/
def signBit : Nat := 0x8000000000000000

namespace Numeral

/-- The largest number of 64 bits. -/
def maxWord : Nat := UInt64.size - 1

/-- Takes digits as long as the number fits 64 bits, and returns the others. -/
def absorb (n : Nat) : List Nat → Nat × List Nat
  | [] => (n, [])
  | d :: ds => if n * 10 + d ≤ maxWord then absorb (n * 10 + d) ds else (n, d :: ds)

/-- The number that digits spell. -/
def natOfDigits (ds : List Nat) : Nat :=
  ds.foldl (fun n d => n * 10 + d) 0

/-- Ten to the power `n`, for `n` up to 308. -/
def powerOfTen (n : Nat) : Float :=
  Float.ofScientific 1 false n

/-- `x · 10 ^ exponent` in steps of at most 308, nothing when it is too large. -/
def scale? : Nat → Float → Int → Option Float
  | 0, _, _ => some 0
  | steps + 1, x, exponent =>
      if exponent.natAbs ≤ 308 then
        if 0 ≤ exponent then
          let y := x * powerOfTen exponent.toNat
          if y.isInf then none else some y
        else some (x / powerOfTen exponent.natAbs)
      else if x == 0 then some x
      else if 0 ≤ exponent then none
      else scale? steps (x / powerOfTen 308) (exponent + 308)

/-- The exponent as written, beyond 32 bits only its sign counts. -/
def exponentValue (exponent : Bool × List Nat) : Int :=
  let n : Int := min (natOfDigits exponent.2) 0x80000000
  if exponent.1 then -n else n

/-- The number a numeral stands for, nothing when it is out of range. -/
def number? (numeral : Numeral) : Option Number :=
  let (head, dropped) := absorb 0 numeral.whole
  match numeral.fraction, numeral.exponent, dropped with
  | none, none, [] =>
      if numeral.negative then
        if 0 < head && head ≤ signBit then some (.whole (-head))
        else some (.double (-(UInt64.ofNat head).toFloat).toBits)
      else some (.whole head)
  | fraction, exponent, dropped =>
      let places := fraction.getD []
      let (significand, unused) := absorb head places
      let shift : Int := dropped.length - (places.length - unused.length : Nat)
      let power := shift + (exponent.map exponentValue).getD 0
      (scale? 10 (UInt64.ofNat significand).toFloat power).map fun x =>
        .double (if numeral.negative then -x else x).toBits

end Numeral

/-- How a binary fraction is written: positional from `10 ^ -5` up to but not including `10 ^ 16`,
always with a point; otherwise with a signed exponent. -/
structure DoubleFormat where
  leastPositional : Int
  greatestPositional : Int
  plusSign : Bool
  deriving DecidableEq, Repr

/-- The format of the numbers in a document. -/
def doubleFormat : DoubleFormat := ⟨-5, 15, true⟩

/-- The digits of a decimal without zeros at the end, with the power of ten of the first one. -/
def leadingDigits (d : Decimal.Value) : List Char × Int :=
  let written := (toString d.digits).toList
  let kept := (written.reverse.dropWhile (· == '0')).reverse
  (kept, d.exponent + (written.length : Int) - 1)

/-- Digits whose first one counts `10 ^ power`, without an exponent. -/
def positional (digits : List Char) (power : Int) : List Char :=
  if power < 0 then
    '0' :: '.' :: (List.replicate (power.natAbs - 1) '0' ++ digits)
  else
    let before := power.toNat + 1
    let head := digits.take before ++ List.replicate (before - digits.length) '0'
    let tail := digits.drop before
    head ++ '.' :: (if tail.isEmpty then ['0'] else tail)

/-- Digits whose first one counts `10 ^ power`, with an exponent. -/
def scientific (format : DoubleFormat) (digits : List Char) (power : Int) : List Char :=
  let fraction := digits.drop 1
  let sign := if power < 0 then ['-'] else if format.plusSign then ['+'] else []
  digits.take 1 ++ (if fraction.isEmpty then [] else '.' :: fraction) ++
    'e' :: (sign ++ (toString power.natAbs).toList)

/-- The written form of a binary fraction given by its bits. -/
def doubleText (bits : UInt64) : List Char :=
  let n := bits.toNat
  let sign := if n / signBit = 1 then ['-'] else []
  let magnitude := n % signBit
  if magnitude = 0 then sign ++ ['0', '.', '0']
  else
    let (digits, power) := leadingDigits (Decimal.Binary.ofBits magnitude).shortest
    let body :=
      if doubleFormat.leastPositional ≤ power && power ≤ doubleFormat.greatestPositional then
        positional digits power
      else scientific doubleFormat digits power
    sign ++ body

/-- The written form of a number. -/
def Number.text : Number → List Char
  | .whole i => (toString i).toList
  | .double bits => doubleText bits

end Receipts.Json
