import Receipts.Text.CharSet
import Receipts.Text.LetterTable

/-!
# Word characters

A word boundary lies between a word character and anything else. ASCII letters,
ASCII digits and the underscore are decided without a table.
-/

namespace Receipts.Text

/-- A letter, mark, digit, letter number, connector or joiner. -/
def isWordChar (c : Char) : Bool :=
  c.isAlphanum || c == '_' || (0x80 ≤ c.toNat && inRanges wordRanges c.toNat)

/-- Whether a word boundary lies between two neighbours, absent at the ends of a text. -/
def wordBoundary (left right : Option Char) : Bool :=
  left.any isWordChar != right.any isWordChar

/-- An alphabetic character of any script. -/
def isAlphabetic (c : Char) : Bool :=
  c.isAlpha || (0x80 ≤ c.toNat && inRanges alphabeticRanges c.toNat)

/-- An alphabetic or numeric character of any script. -/
def isAlphanumeric (c : Char) : Bool :=
  c.isAlphanum ||
    (0x80 ≤ c.toNat && (inRanges alphabeticRanges c.toNat || inRanges numericRanges c.toNat))

end Receipts.Text
