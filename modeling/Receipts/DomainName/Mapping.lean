import Receipts.DomainName.MappingTable
import Receipts.Text.Case
import Receipts.Text.CharSet

/-!
# Spellings of characters in domain names

A domain name may be spelled with characters that stand for others, such as
capital letters, or that stand for nothing. ASCII letters are decided without a
table.
-/

namespace Receipts.DomainName

/-- The code point that hexadecimal digits spell. -/
def codePoint (digits : List Char) : Nat :=
  (Text.hexNumber? digits).getD 0

/-- The characters that stand for themselves. -/
def standing : CharSet := .ofHex standingRanges

/-- The characters that are left out. -/
def omitted : CharSet := .ofHex omittedRanges

/-- Images that are being read: the code point that is mapped next, and the images so far. -/
structure ImagesSoFar where
  next : Nat := 0
  found : List (Nat × List Char) := []

/-- Reads a code point to go on with, or one image more. -/
def ImagesSoFar.read (images : ImagesSoFar) : List Char → ImagesSoFar
  | '@' :: digits => { images with next := codePoint digits }
  | written =>
      let image := (List.splitOn '+' written).map fun digits => Char.ofNat (codePoint digits)
      ⟨images.next + 1, (images.next, image) :: images.found⟩

/-- The characters that stand for others, with these. Those in runs are not among them. -/
def images : List (Nat × List Char) :=
  ((List.splitOn ' ' imageList.toList).foldl ImagesSoFar.read {}).found

/-- The characters that a character stands for. -/
def mapChar? (c : Char) : Option (List Char) :=
  if c.toNat < 0x80 then some [c.toLower]
  else if standing.holds c then some [c]
  else if omitted.holds c then some []
  else
    match Text.runImage? imageRuns c.toNat with
    | some n => some [Char.ofNat n]
    | none => images.lookup c.toNat

end Receipts.DomainName
