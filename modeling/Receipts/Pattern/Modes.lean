import Receipts.Text.Blank
import Receipts.Text.CharSet

/-!
# Modes of written patterns

Flags in a pattern switch modes on and off, for the rest of the group they stand
in. A verbose pattern may contain blanks, and comments from `#` to the end of a
line.

Under ASCII a pattern has no sets but those of ASCII characters. What would match
a part of another character, the complement of such a set among it, is no
pattern.
-/

namespace Receipts.Pattern

/-- The modes that flags switch. -/
structure Modes where
  ignoreCase : Bool := false
  multiLine : Bool := false
  dotAll : Bool := false
  swapGreed : Bool := false
  verbose : Bool := false
  crlf : Bool := false
  ascii : Bool := false
  deriving DecidableEq, Repr

namespace Modes

/-- Switches one mode. -/
def set? (modes : Modes) (on : Bool) : Char → Option Modes
  | 'i' => some { modes with ignoreCase := on }
  | 'm' => some { modes with multiLine := on }
  | 's' => some { modes with dotAll := on }
  | 'U' => some { modes with swapGreed := on }
  | 'x' => some { modes with verbose := on }
  | 'u' => some { modes with ascii := !on }
  | 'R' => some { modes with crlf := on }
  | _ => none

/-- Switches modes by their letters, those after a minus sign off. No letter stands twice, and a
minus sign does not stand last. -/
def switch? (modes : Modes) (on : Bool) (seen : List Char) : List Char → Option Modes
  | [] => if !on && seen.head? == some '-' then none else some modes
  | c :: flags =>
      if seen.contains c then none
      else if c == '-' then modes.switch? false (c :: seen) flags
      else
        match modes.set? on c with
        | some modes => modes.switch? on (c :: seen) flags
        | none => none

/-- The text after blanks and comments. -/
def afterBlanks (comment : Bool) : List Char → List Char
  | [] => []
  | c :: rest =>
      if comment then afterBlanks (c != '\n') rest
      else if Text.isBlank c then afterBlanks false rest
      else if c == '#' then afterBlanks true rest
      else c :: rest

/-- The text after what a verbose pattern may contain. -/
def skip (modes : Modes) (s : List Char) : List Char :=
  if modes.verbose then afterBlanks false s else s

/-- The first character that is not blank and does not open a comment. -/
def firstVisible (comment : Bool) : List Char → Option Char
  | [] => none
  | c :: rest =>
      if Text.isBlank c then firstVisible comment rest
      else if !comment && c == '#' then firstVisible true rest
      else some c

/-- The character that decides whether a hyphen before this text is a range. In a comment, its first
visible character counts. -/
def peek? (modes : Modes) (s : List Char) : Option Char :=
  if modes.verbose then (firstVisible false s).or s.head? else s.head?

/-- Reads up to a closing brace. Blanks and comments of a verbose pattern are left out. -/
def braced? (modes : Modes) (comment : Bool) : List Char → Option (List Char × List Char)
  | [] => none
  | c :: rest =>
      if comment then modes.braced? (c != '\n') rest
      else if modes.verbose && Text.isBlank c then modes.braced? false rest
      else if modes.verbose && c == '#' then modes.braced? true rest
      else if c == '\x7d' then some ([], rest)
      else (modes.braced? false rest).map fun (inside, after) => (c :: inside, after)

/-- A set in the letter case that the modes ask for. -/
def fold (modes : Modes) (set : CharSet) : CharSet :=
  if !modes.ignoreCase then set else if modes.ascii then set.foldedAscii else set.folded

/-- A set, if it may stand in a pattern. -/
def admit? (modes : Modes) (set : CharSet) : Option CharSet :=
  if modes.ascii && !set.isAscii then none else some set

/-- A set or all other characters, if that may stand in a pattern. Letter case is seen to before. -/
def signed? (modes : Modes) (negated : Bool) (set : CharSet) : Option CharSet :=
  let set := modes.fold set
  modes.admit? (if negated then set.compl else set)

end Modes

end Receipts.Pattern
