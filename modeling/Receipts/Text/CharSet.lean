import Receipts.Text.FoldTable
import Receipts.Text.Hex
import Receipts.Text.WordTable

/-!
# Sets of characters

A set is kept as ranges of code points in ascending order that neither overlap
nor touch, so that equal sets are equal values. Sets are made from any ranges by
`CharSet.ofRanges`, which puts them into that form.
-/

namespace Receipts

namespace Text

/-- Whether a number lies in one of ascending ranges. -/
def inRanges : List (Nat × Nat) → Nat → Bool
  | [], _ => false
  | (first, last) :: rest, n => first ≤ n && (n ≤ last || inRanges rest n)

end Text

/-- A set of characters. -/
structure CharSet where
  ranges : List (Nat × Nat)
  deriving DecidableEq, Repr

namespace CharSet

/-- The greatest code point. -/
def greatest : Nat := 0x10FFFF

/-- Joins a range with those after it as far as they meet, in the order of their beginnings. -/
def joinFrom (range : Nat × Nat) : List (Nat × Nat) → List (Nat × Nat)
  | [] => [range]
  | next :: rest =>
      if next.1 ≤ range.2 + 1 then joinFrom (range.1, max range.2 next.2) rest
      else range :: joinFrom next rest

/-- Puts a range before the first of others that does not begin earlier. -/
def placeRange (range : Nat × Nat) : List (Nat × Nat) → List (Nat × Nat)
  | [] => [range]
  | next :: rest =>
      if range.1 ≤ next.1 then range :: next :: rest else next :: placeRange range rest

/-- The set of the code points in any of the ranges. -/
def ofRanges (ranges : List (Nat × Nat)) : CharSet :=
  let proper := ranges.filter fun range => range.1 ≤ range.2
  match proper.foldr placeRange [] with
  | [] => ⟨[]⟩
  | first :: rest => ⟨joinFrom first rest⟩

/-- The ranges between others, from a number on. -/
def gapsFrom (n : Nat) : List (Nat × Nat) → List (Nat × Nat)
  | [] => if n ≤ greatest then [(n, greatest)] else []
  | (first, last) :: rest =>
      if n < first then (n, first - 1) :: gapsFrom (last + 1) rest else gapsFrom (last + 1) rest

/-- No character. -/
def nothing : CharSet := ⟨[]⟩

/-- Every character. -/
def any : CharSet := ⟨[(0, greatest)]⟩

/-- One character. -/
def single (c : Char) : CharSet := ⟨[(c.toNat, c.toNat)]⟩

/-- The characters from one to another. -/
def range (first last : Char) : CharSet := ofRanges [(first.toNat, last.toNat)]

/-- The characters of a list. -/
def ofList (chars : List Char) : CharSet :=
  ofRanges (chars.map fun c => (c.toNat, c.toNat))

/-- The characters in either of two sets. -/
def union (a b : CharSet) : CharSet := ofRanges (a.ranges ++ b.ranges)

/-- All other characters. -/
def compl (a : CharSet) : CharSet := ⟨gapsFrom 0 a.ranges⟩

/-- The characters in both of two sets. -/
def inter (a b : CharSet) : CharSet := (a.compl.union b.compl).compl

/-- The characters of the first set that are not in the second. -/
def diff (a b : CharSet) : CharSet := (a.compl.union b).compl

/-- The characters in exactly one of two sets. -/
def symmDiff (a b : CharSet) : CharSet := (a.diff b).union (b.diff a)

/-- Every character but those of a list. -/
def noneOf (chars : List Char) : CharSet := (ofList chars).compl

/-- Whether a code point is in a set. -/
def holdsCode (set : CharSet) (n : Nat) : Bool := Text.inRanges set.ranges n

/-- Whether a set holds a character. -/
def holds (set : CharSet) (c : Char) : Bool := set.holdsCode c.toNat

/-- Whether no character is in a set. -/
def isEmpty (set : CharSet) : Bool := set.ranges.isEmpty

/-- Whether two sets share a character. -/
def meets (a b : CharSet) : Bool := !(a.inter b).isEmpty

/-- The only character of a set, if it has just one. -/
def only? (set : CharSet) : Option Char :=
  match set.ranges with
  | [(first, last)] => if first = last then some (Char.ofNat first) else none
  | _ => none

/-- The characters from U+0000 to U+007F. -/
def ascii : CharSet := ⟨[(0, 0x7F)]⟩

/-- Whether every character of a set is an ASCII character. -/
def isAscii (set : CharSet) : Bool := set.ranges.all fun range => range.2 < 0x80

/-- The pairs of a code point and its folded form that a run of the table stands for. -/
def foldPairs : List (Nat × Nat) :=
  Text.foldRuns.flatMap fun (first, last, step, image) =>
    (List.range ((last - first) / step + 1)).map fun k => (first + k * step, image + k * step)

/-- The set with every character that differs from one of its characters in letter case alone. Two
characters differ so when they fold to the same. -/
def folded (set : CharSet) : CharSet :=
  let reached := foldPairs.filter fun (code, fold) => set.holdsCode code || set.holdsCode fold
  let folds := ofRanges (reached.map fun (_, fold) => (fold, fold))
  let others := foldPairs.filter fun (_, fold) => folds.holdsCode fold
  ofRanges (set.ranges ++ others.flatMap fun (code, fold) => [(code, code), (fold, fold)])

/-- The set with the ASCII letters that differ from one of its letters in case alone. -/
def foldedAscii (set : CharSet) : CharSet :=
  let letters := fun (first last other : Nat) =>
    (set.inter (ofRanges [(first, last)])).ranges.map fun (a, b) =>
      (a - first + other, b - first + other)
  ofRanges (set.ranges ++ letters 0x41 0x5A 0x61 ++ letters 0x61 0x7A 0x41)

/-- Letters, marks, decimal digits, letter numbers, connectors and joiners. -/
def word : CharSet := ⟨Text.wordRanges⟩

/-- Decimal digits of any script. -/
def digit : CharSet := ⟨Text.digitRanges⟩

/-- White space. -/
def blank : CharSet :=
  ⟨[(0x09, 0x0D), (0x20, 0x20), (0x85, 0x85), (0xA0, 0xA0), (0x1680, 0x1680), (0x2000, 0x200A),
    (0x2028, 0x2029), (0x202F, 0x202F), (0x205F, 0x205F), (0x3000, 0x3000)]⟩

/-- Ranges that are being read: the finished ones, latest first, the beginning of the current one if
its end is being read, and the digits read last. -/
structure Reading where
  finished : List (Nat × Nat) := []
  first : Option Nat := none
  value : Option Nat := none

/-- Finishes the current range, if there is one. -/
def Reading.close (reading : Reading) : Reading :=
  match reading.value with
  | none => reading
  | some last => { finished := (reading.first.getD last, last) :: reading.finished }

/-- Reads one character more of written ranges. -/
def Reading.read (reading : Reading) (c : Char) : Reading :=
  match Text.hexValue? c with
  | some d => { reading with value := some (reading.value.getD 0 * 16 + d) }
  | none =>
      if c == '-' then { reading with first := reading.value, value := none } else reading.close

/-- The set with ranges written in hexadecimal digits and separated by blanks. -/
def ofHex (written : String) : CharSet :=
  ofRanges (written.toList.foldl Reading.read {}).close.finished

end CharSet

end Receipts
