import Receipts.Text.Utf8

/-!
# Base64

Three bytes are four characters of six bits each. A last group of one or two
bytes is filled up with equals signs.
-/

namespace Receipts.Base64

/-- The character for a number below 64. -/
def digit (n : Nat) : Char :=
  if n < 26 then Char.ofNat ('A'.toNat + n)
  else if n < 52 then Char.ofNat ('a'.toNat + (n - 26))
  else if n < 62 then Char.ofNat ('0'.toNat + (n - 52))
  else if n = 62 then '+'
  else '/'

/-- Adds the characters of bytes to those before them, latest first. -/
def encodeFrom : List Char → List UInt8 → List Char
  | written, [] => written.reverse
  | written, [a] =>
      let n := a.toNat * 16
      ('=' :: '=' :: digit (n % 64) :: digit (n / 64) :: written).reverse
  | written, [a, b] =>
      let n := (a.toNat * 256 + b.toNat) * 4
      ('=' :: digit (n % 64) :: digit (n / 64 % 64) :: digit (n / 4096) :: written).reverse
  | written, a :: b :: c :: rest =>
      let n := (a.toNat * 256 + b.toNat) * 256 + c.toNat
      encodeFrom
        (digit (n % 64) :: digit (n / 64 % 64) :: digit (n / 4096 % 64) :: digit (n / 262144)
          :: written)
        rest

/-- The characters that stand for bytes. -/
def encode (bytes : List UInt8) : List Char :=
  encodeFrom [] bytes

/-- The number of a character, if it is one of the 64. -/
def digitValue? (c : Char) : Option Nat :=
  if 'A' ≤ c && c ≤ 'Z' then some (c.toNat - 'A'.toNat)
  else if 'a' ≤ c && c ≤ 'z' then some (c.toNat - 'a'.toNat + 26)
  else if c.isDigit then some (c.toNat - '0'.toNat + 52)
  else if c == '+' then some 62
  else if c == '/' then some 63
  else none

/-- The bytes that characters stand for, if they are in groups of four and filled up right. -/
def decode? : List Char → Option (List UInt8)
  | [] => some []
  | [a, b, '=', '='] => do
      let n := (← digitValue? a) * 64 + (← digitValue? b)
      if n % 16 = 0 then some [UInt8.ofNat (n / 16)] else none
  | [a, b, c, '='] => do
      let n := ((← digitValue? a) * 64 + (← digitValue? b)) * 64 + (← digitValue? c)
      if n % 4 = 0 then some [UInt8.ofNat (n / 1024), UInt8.ofNat (n / 4)] else none
  | a :: b :: c :: d :: rest => do
      let n :=
        (((← digitValue? a) * 64 + (← digitValue? b)) * 64 + (← digitValue? c)) * 64
          + (← digitValue? d)
      let others ← decode? rest
      some (UInt8.ofNat (n / 65536) :: UInt8.ofNat (n / 256) :: UInt8.ofNat n :: others)
  | _ => none

end Receipts.Base64
