import Receipts.Pattern.Automaton
import Receipts.Pattern.Ways

/-!
# Searching

A search finds the leftmost match of a pattern, and of the matches there the
preferred one. Patterns that leave little to choose are matched by trying their
ways, all others by their automaton.
-/

namespace Receipts.Pattern

/-- Where a group matches in the leftmost match of a text, if there is a match and the group took
part in it: the positions of its first character and of the one after its last. -/
def find? (pattern : Pattern) (index : Nat) (s : List Char) : Option (Nat × Nat) :=
  if pattern.isDirect then pattern.findByWays? index s else pattern.findByAutomaton? index s

/-- The text that a group has in the leftmost match. -/
def capture? (pattern : Pattern) (index : Nat) (s : List Char) : Option (List Char) :=
  (pattern.find? index s).map fun (first, last) => (s.drop first).take (last - first)

end Receipts.Pattern
