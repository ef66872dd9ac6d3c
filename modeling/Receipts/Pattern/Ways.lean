import Receipts.Pattern.Basic

/-!
# Trying the ways of a pattern

A pattern matches at a place of a text in several ways, which are tried in the
order in which they are preferred. A search takes the leftmost place with a
match, and there the first way that matches. Groups remember where they matched
last.

Trying one way after the other suits patterns that leave little to choose, and
`Pattern.isDirect` tells them: they begin with a fixed text and have no
repetitions but runs and optional parts, no alternatives, and at most one run
that can end before it has to.
-/

namespace Receipts.Pattern

/-- Where a group matched: the positions of its first character and of the one after its last. -/
structure Capture where
  group : Nat
  first : Nat
  last : Nat
  deriving DecidableEq, Repr

/-- A place in a text with what the groups have matched so far, latest first. -/
structure Spot where
  left : Option Char
  rest : List Char
  position : Nat
  captures : List Capture
  deriving DecidableEq, Repr

/-- What follows a match: it says whether the rest of the pattern matches from a place on. -/
abbrev Continuation := Spot → Option Spot

/-- The place after a fixed text. -/
def afterText? : List Char → Spot → Option Spot
  | [], spot => some spot
  | c :: chars, spot =>
      match spot.rest with
      | d :: rest =>
          if c = d then
            afterText? chars { spot with left := some d, rest, position := spot.position + 1 }
          else none
      | [] => none

/-- The places after 0, 1, 2, … characters of a set, last one first, `found` behind them. -/
def spotsFrom (set : CharSet) (captures : List Capture) :
    List Spot → Option Char → List Char → Nat → Option Nat → List Spot
  | found, left, [], position, _ => ⟨left, [], position, captures⟩ :: found
  | found, left, c :: rest, position, most =>
      let found := ⟨left, c :: rest, position, captures⟩ :: found
      if most == some 0 || !set.holds c then found
      else spotsFrom set captures found (some c) rest (position + 1) (most.map (· - 1))

/-- The places where a run may end, in the order they are tried. -/
def runEnds (set : CharSet) (least : Nat) (most : Option Nat) (greedy : Bool) (spot : Spot) :
    List Spot :=
  let spots := spotsFrom set spot.captures [] spot.left spot.rest spot.position most
  if greedy then spots.take (spots.length - least) else spots.reverse.drop least

/-- Exactly `n` turns of a body. -/
def turns (body : Continuation → Continuation) : Nat → Continuation → Continuation
  | 0, next => next
  | n + 1, next => body (turns body n next)

/-- At most `n` turns of a body. -/
def someTurns (body : Continuation → Continuation) (greedy : Bool) :
    Nat → Continuation → Continuation
  | 0, next => next
  | n + 1, next => fun spot =>
      let again := body (someTurns body greedy n next)
      if greedy then
        match again spot with
        | some found => some found
        | none => next spot
      else
        match next spot with
        | some found => some found
        | none => again spot

/-- Matches a pattern at a place and goes on with `next`; the first way that succeeds counts. A
repetition without end has as many turns as there are characters left. -/
def matchAt : Pattern → Continuation → Continuation
  | .empty, next, spot => next spot
  | .text chars, next, spot =>
      match afterText? chars spot with
      | some spot => next spot
      | none => none
  | .run set least most greedy, next, spot =>
      (runEnds set least most greedy spot).findSome? next
  | .seq first second, next, spot => first.matchAt (second.matchAt next) spot
  | .alt first second, next, spot =>
      match first.matchAt next spot with
      | some found => some found
      | none => second.matchAt next spot
  | .repeated least most greedy body, next, spot =>
      let more := (most.map (· - least)).getD spot.rest.length
      turns (fun next => body.matchAt next) least
        (someTurns (fun next => body.matchAt next) greedy more next) spot
  | .group index body, next, spot =>
      body.matchAt (fun after =>
        next { after with
          captures := ⟨index, spot.position, after.position⟩ :: after.captures }) spot
  | .assertion condition, next, spot =>
      if condition.holds spot.left spot.rest.head? then next spot else none

/-- The end of the leftmost match from a place on. -/
def searchFrom (pattern : Pattern) : Option Char → List Char → Nat → Option Spot
  | left, [], position => pattern.matchAt some ⟨left, [], position, []⟩
  | left, c :: rest, position =>
      match pattern.matchAt some ⟨left, c :: rest, position, []⟩ with
      | some found => some found
      | none => searchFrom pattern (some c) rest (position + 1)

/-- Where a group matches in the leftmost match of a text, found by trying ways. -/
def findByWays? (pattern : Pattern) (index : Nat) (s : List Char) : Option (Nat × Nat) :=
  (searchFrom pattern none s 0).bind fun found =>
    (found.captures.find? fun capture => capture.group == index).map fun capture =>
      (capture.first, capture.last)

/-- The characters that a pattern may start with when those of `next` follow it. -/
def firstChars : Pattern → CharSet → CharSet
  | .empty, next => next
  | .text [], next => next
  | .text (c :: _), _ => .single c
  | .run set least _ _, next => if least = 0 then set.union next else set
  | .seq first second, next => first.firstChars (second.firstChars next)
  | .alt first second, next => (first.firstChars next).union (second.firstChars next)
  | .repeated least _ _ body, next =>
      if least = 0 then (body.firstChars next).union next else body.firstChars next
  | .group _ body, next => body.firstChars next
  | .assertion _, _ => .any

/-- Whether a pattern matches everywhere. -/
def isOptional : Pattern → Bool
  | .empty => true
  | .text chars => chars.isEmpty
  | .run _ least _ _ => least == 0
  | .seq first second => first.isOptional && second.isOptional
  | .alt first second => first.isOptional || second.isOptional
  | .repeated least _ _ body => least == 0 || body.isOptional
  | .group _ body => body.isOptional
  | .assertion _ => false

/-- How much a pattern leaves to choose, before what may start with the characters `next`, or before
what matches everywhere. A run counts two if it can end before one of its characters; an optional
part counts one; nothing is said of patterns with alternatives or other repetitions. -/
def freedom? : Pattern → Option CharSet → Option Nat
  | .empty, _ => some 0
  | .text _, _ => some 0
  | .run set least most _, next =>
      match next with
      | none => some 0
      | some next => if most = some least || !set.meets next then some 0 else some 2
  | .seq first second, next => do
      let between :=
        if second.isOptional && next.isNone then none
        else some (second.firstChars (next.getD .any))
      return (← first.freedom? between) + (← second.freedom? next)
  | .alt _ _, _ => none
  | .repeated 0 (some 1) _ body, next => (body.freedom? next).map (· + 1)
  | .repeated _ _ _ _, _ => none
  | .group _ body, next => body.freedom? next
  | .assertion _, _ => some 0

/-- Whether a pattern begins with a fixed text. -/
def beginsWithText : Pattern → Bool
  | .text chars => !chars.isEmpty
  | .seq first _ => first.beginsWithText
  | .group _ body => body.beginsWithText
  | _ => false

/-- Whether a pattern leaves so little to choose, and so few places to begin at, that its ways are
tried one after the other. -/
def isDirect (pattern : Pattern) : Bool :=
  pattern.beginsWithText && (pattern.freedom? none).any (· ≤ 3)

end Receipts.Pattern
