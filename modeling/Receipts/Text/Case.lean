import Receipts.Text.CaseTable
import Receipts.Text.Word

/-!
# Upper and lower case

One character may have several characters as its other case. A whole text is
lowered with one rule of context: a capital sigma that ends a word becomes the
final form. ASCII characters never consult a table.
-/

namespace Receipts.Text

/-- The image of a code point under the first run that holds it. -/
def runImage? (runs : List (Nat × Nat × Nat × Nat)) (n : Nat) : Option Nat :=
  runs.findSome? fun (first, last, step, image) =>
    if first ≤ n && n ≤ last && (n - first) % step == 0 then some (image + (n - first)) else none

/-- The lower-case form of a character on its own. -/
def lowerChar (c : Char) : List Char :=
  if c.toNat < 0x80 then [c.toLower]
  else if c.toNat == 0x130 then ['i', Char.ofNat 0x307]
  else
    match runImage? lowerRuns c.toNat with
    | some n => [Char.ofNat n]
    | none => [c]

/-- The upper-case form of a character on its own. -/
def upperChar (c : Char) : List Char :=
  if c.toNat < 0x80 then [c.toUpper]
  else
    match upperExpansions.lookup c.toNat with
    | some image => image.map Char.ofNat
    | none =>
      match runImage? upperRuns c.toNat with
      | some n => [Char.ofNat n]
      | none => [c]

/-- A character that has a case. -/
def isCased (c : Char) : Bool :=
  c.isAlpha || (0x80 ≤ c.toNat && inRanges casedRanges c.toNat)

/-- A character that case-dependent rules look through. -/
def isCaseIgnorable (c : Char) : Bool :=
  c == '\'' || c == '.' || c == ':' || c == '^' || c.toNat == 0x60 ||
    (0x80 ≤ c.toNat && inRanges caseIgnorableRanges c.toNat)

/-- Whether the first character that counts is cased. -/
def casedAhead (s : List Char) : Bool :=
  (s.dropWhile isCaseIgnorable).head?.any isCased

/-- The capital sigma, whose lower-case form depends on its place in the word. -/
def capitalSigma : Char := Char.ofNat 0x3A3

/-- Lowers `s`, where `left` is the text before it from right to left. -/
def lowerFrom (left : List Char) : List Char → List Char
  | [] => []
  | c :: s =>
      let image :=
        if c == capitalSigma then
          if casedAhead left && !casedAhead s then [Char.ofNat 0x3C2] else [Char.ofNat 0x3C3]
        else lowerChar c
      image ++ lowerFrom (c :: left) s

/-- The lower-case form of a text. -/
def lower (s : List Char) : List Char :=
  lowerFrom [] s

/-- The first character in upper case, every other one in lower case on its own. -/
def titleCase : List Char → List Char
  | [] => []
  | c :: s => upperChar c ++ s.flatMap lowerChar

end Receipts.Text
