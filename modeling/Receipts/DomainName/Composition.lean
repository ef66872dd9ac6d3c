import Receipts.DomainName.CompositionTable
import Receipts.DomainName.MarkTable
import Receipts.DomainName.Mapping

/-!
# Composed spelling of domain names

A letter with marks has one spelling: marks of different classes follow each
other in the order of their classes, and what can be a single character is one. A
mark is composed with the letter before it unless a mark of its own class, or of
a higher one, stands between them.
-/

namespace Receipts.DomainName

/-- The marks of each class but 0. -/
def markSets : List (Nat × CharSet) :=
  markClasses.map fun (n, ranges) => (n, .ofHex ranges)

/-- The class of a mark, and 0 for anything else. -/
def markClass (c : Char) : Nat :=
  if c.toNat < 0x300 then 0
  else
    match markSets.find? fun entry => entry.2.holds c with
    | some entry => entry.1
    | none => 0

/-- A character that is composed of two others. -/
structure Composition where
  first : Char
  second : Char
  composed : Char
  deriving DecidableEq, Repr

/-- All compositions but those of Korean syllables. -/
def compositions : List Composition :=
  compositionList.flatMap fun (second, entries) =>
    (List.splitOn ' ' entries.toList).map fun entry =>
      let digits := List.splitOn '>' entry
      let char := fun n => Char.ofNat (codePoint (digits[n]?.getD []))
      ⟨char 0, Char.ofNat second, char 1⟩

/-- The Korean syllable that two parts make: a consonant and a vowel, or these and a final
consonant. -/
def syllable? (a b : Nat) : Option Nat :=
  if 0x1100 ≤ a && a ≤ 0x1112 && 0x1161 ≤ b && b ≤ 0x1175 then
    some (0xAC00 + ((a - 0x1100) * 21 + (b - 0x1161)) * 28)
  else if 0xAC00 ≤ a && a ≤ 0xD7A3 && (a - 0xAC00) % 28 = 0 && 0x11A8 ≤ b && b ≤ 0x11C2 then
    some (a + (b - 0x11A7))
  else none

/-- The parts of a Korean syllable. -/
def syllableParts (n : Nat) : List Nat :=
  let k := n - 0xAC00
  let final := k % 28
  [0x1100 + k / 588, 0x1161 + k % 588 / 28] ++ (if final = 0 then [] else [0x11A7 + final])

/-- The character that two others make. -/
def composed? (a b : Char) : Option Char :=
  if b.toNat < 0x300 then none
  else
    match syllable? a.toNat b.toNat with
    | some n => some (Char.ofNat n)
    | none =>
        (compositions.find? fun entry => entry.first == a && entry.second == b).map
          Composition.composed

/-- A character in its parts. The first part may itself have parts, to a given depth. -/
def parts : Nat → Char → List Char
  | 0, c => [c]
  | depth + 1, c =>
      if 0xAC00 ≤ c.toNat && c.toNat ≤ 0xD7A3 then (syllableParts c.toNat).map Char.ofNat
      else
        match compositions.find? fun entry => entry.composed == c with
        | some entry => parts depth entry.first ++ [entry.second]
        | none => [c]

/-- Puts a character before a text, a mark behind the marks of lower classes. -/
def insertMark (c : Char) : List Char → List Char
  | [] => [c]
  | d :: s =>
      if markClass d != 0 && markClass d < markClass c then d :: insertMark c s else c :: d :: s

/-- Composes a text whose marks are in order. The letter is the last character of class 0, if there
is one; `marks` are those after it that it is not composed with, latest first. -/
def composeFrom : Option Char → List Char → List Char → List Char
  | letter, marks, [] => letter.toList ++ marks.reverse
  | none, marks, c :: s =>
      if markClass c = 0 then marks.reverse ++ composeFrom (some c) [] s
      else composeFrom none (c :: marks) s
  | some letter, marks, c :: s =>
      let reaches := marks.head?.all fun mark => markClass mark < markClass c
      match if reaches then composed? letter c else none with
      | some letter => composeFrom (some letter) marks s
      | none =>
          if markClass c = 0 then letter :: marks.reverse ++ composeFrom (some c) [] s
          else composeFrom (some letter) (c :: marks) s

/-- The composed spelling of a text. No character has parts of parts of more than three levels. -/
def composed (s : List Char) : List Char :=
  if s.all fun c => c.toNat < 0x300 then s
  else composeFrom none [] ((s.flatMap (parts 4)).foldr insertMark [])

end Receipts.DomainName
