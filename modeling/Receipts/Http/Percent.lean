import Receipts.Text.Hex
import Receipts.Text.Utf8

/-!
# Percent encoding

A byte is written as a percent sign and two hexadecimal digits. Which characters
are written so depends on the part of a URL they stand in.
-/

namespace Receipts.Http

/-- A byte as a percent sign and two digits. -/
def percentByte (b : UInt8) : List Char :=
  let digit := fun n => (Text.hexDigit n).toUpper
  ['%', digit (b.toNat / 16), digit (b.toNat % 16)]

/-- A text with the bytes of some characters written by percent signs; controls and everything
beyond ASCII are always among them. -/
def percentEncode (alsoThese : List Char) (s : List Char) : List Char :=
  s.flatMap fun c =>
    if c.toNat < 0x20 || 0x7E < c.toNat || alsoThese.contains c then
      (String.utf8EncodeChar c).flatMap percentByte
    else [c]

/-- The bytes of a text in which a percent sign with two digits stands for a byte. Any other percent
sign stands for itself. -/
def percentDecode : List Char → List UInt8
  | [] => []
  | '%' :: a :: b :: s =>
      match Text.hexValue? a, Text.hexValue? b with
      | some high, some low => UInt8.ofNat (high * 16 + low) :: percentDecode s
      | _, _ => UInt8.ofNat '%'.toNat :: percentDecode (a :: b :: s)
  | c :: s => String.utf8EncodeChar c ++ percentDecode s

end Receipts.Http
