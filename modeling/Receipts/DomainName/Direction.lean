import Receipts.DomainName.Composition
import Receipts.DomainName.DirectionTable

/-!
# Text from right to left in domain names

In a name with letters or numbers of text from right to left, each label has to
read the same in both directions of writing. Characters that join or part their
neighbours may stand only where letters do join.
-/

namespace Receipts.DomainName

/-- How a character behaves in text from right to left. -/
inductive Direction where
  | left
  | right
  | arabicLetter
  | arabicNumber
  | number
  | numberSign
  | numberSeparator
  | numberEnd
  | neutral
  | invisible
  | mark
  | separator
  deriving DecidableEq, Repr

/-- Marks without a width of their own. -/
def nonspacing : CharSet := .ofHex nonspacingRanges

/-- All marks. -/
def marks : CharSet := nonspacing.union (.ofHex spacingRanges)

/-- The characters of each direction. The first set that holds a character decides. -/
def directionSets : List (Direction × CharSet) :=
  [(.left, .ofHex leftMarkRanges), (.mark, nonspacing), (.right, .ofHex rightRanges),
   (.arabicLetter, .ofHex arabicLetterRanges), (.arabicNumber, .ofHex arabicNumberRanges),
   (.number, .ofHex numberRanges), (.numberSign, .ofHex numberSignRanges),
   (.numberSeparator, .ofHex numberSeparatorRanges), (.numberEnd, .ofHex numberEndRanges),
   (.neutral, .ofHex neutralRanges), (.invisible, .ofHex invisibleRanges),
   (.separator, .ofHex separatorRanges)]

/-- The direction of a character. -/
def direction (c : Char) : Direction :=
  match directionSets.find? fun entry => entry.2.holds c with
  | some entry => entry.1
  | none => .left

/-- Whether a character belongs to text from right to left. -/
def isFromRight (c : Char) : Bool :=
  0x80 ≤ c.toNat && [.right, .arabicLetter, .arabicNumber].contains (direction c)

/-- Whether a label keeps one direction. It has the direction of its first letter, no character of
the other direction, and, marks aside, a letter or number at its end. -/
def keepsDirection (label : List Char) : Bool :=
  let directions := label.map direction
  let last := (directions.reverse.dropWhile (· == .mark)).head?
  let endsIn := fun (allowed : List Direction) => last.any allowed.contains
  let hasNone := fun (others : List Direction) => directions.all fun d => !others.contains d
  match directions.head? with
  | none => true
  | some .left =>
      hasNone [.right, .arabicLetter, .arabicNumber, .separator] && endsIn [.left, .number]
  | some .right | some .arabicLetter =>
      hasNone [.left, .separator] && endsIn [.right, .arabicLetter, .arabicNumber, .number]
        && (hasNone [.number] || hasNone [.arabicNumber])
  | some _ => false

/-- The character that parts its neighbours. -/
def nonJoiner : Char := Char.ofNat 0x200C

/-- The character that joins its neighbours. -/
def joiner : Char := Char.ofNat 0x200D

/-- A character through which letters join. -/
def isTransparent (c : Char) : Bool := nonspacing.holds c || c.toNat == 0x1E94B

/-- Letters that join the next letter. -/
def joinsNext : CharSet := .ofHex (joinsBothRanges ++ " " ++ joinsNextRanges)

/-- Letters that join the previous letter. -/
def joinsPrevious : CharSet := .ofHex (joinsBothRanges ++ " " ++ joinsPreviousRanges)

/-- Whether joiners stand only where they may, after the text `left` from right to left: after a
sign of class 9, which suppresses a vowel; what parts letters also between letters that would
join. -/
def joinersFit : List Char → List Char → Bool
  | _, [] => true
  | left, c :: s =>
      let fits :=
        if c == nonJoiner || c == joiner then
          left.head?.any fun d => markClass d == 9 ||
            (c == nonJoiner && (left.dropWhile isTransparent).head?.any joinsNext.holds
              && (s.dropWhile isTransparent).head?.any joinsPrevious.holds)
        else true
      fits && joinersFit (c :: left) s

end Receipts.DomainName
