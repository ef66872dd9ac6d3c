import Receipts.Text.CharSet

/-!
# Patterns

A pattern says which texts it matches, and in which order its ways to match are
preferred: the left alternative before the right one, more repetitions before
fewer when greedy and fewer before more when lazy.

Patterns are built by the functions below, which keep them in a simple form:
neighbouring fixed texts are one text, sequences and alternatives are not nested
on their left, a choice between sets is a set, and alternatives that all begin
with the same parts have these parts in front of them.
-/

namespace Receipts

/-- A condition on word characters at the two sides of a place. -/
inductive WordEdge where
  | boundary
  | noBoundary
  | start
  | finish
  | noneBefore
  | noneAfter
  deriving DecidableEq, Repr

/-- A condition on a place between two characters. -/
inductive Assertion where
  | textStart
  | textEnd
  | lineStart (crlf : Bool)
  | lineEnd (crlf : Bool)
  | word (edge : WordEdge) (ascii : Bool)
  deriving DecidableEq, Repr

/-- A pattern. A run is a repetition of single characters of one set. -/
inductive Pattern where
  | empty
  | text (chars : List Char)
  | run (set : CharSet) (least : Nat) (most : Option Nat) (greedy : Bool)
  | seq (first second : Pattern)
  | alt (first second : Pattern)
  | repeated (least : Nat) (most : Option Nat) (greedy : Bool) (body : Pattern)
  | group (index : Nat) (body : Pattern)
  | assertion (condition : Assertion)
  deriving DecidableEq, Repr

/-- Whether a condition holds between a word character or none and a word character or none. -/
def WordEdge.holds (edge : WordEdge) (left right : Bool) : Bool :=
  match edge with
  | .boundary => left != right
  | .noBoundary => left == right
  | .start => !left && right
  | .finish => left && !right
  | .noneBefore => !left
  | .noneAfter => !right

/-- Whether a condition holds between two neighbours, absent at the ends of a text. A line may end
in CRLF, which is not taken apart. -/
def Assertion.holds (condition : Assertion) (left right : Option Char) : Bool :=
  match condition with
  | .textStart => left.isNone
  | .textEnd => right.isNone
  | .lineStart crlf =>
      left.isNone || left == some '\n' || (crlf && left == some '\r' && right != some '\n')
  | .lineEnd crlf =>
      right.isNone || (right == some '\n' && !(crlf && left == some '\r'))
        || (crlf && right == some '\r')
  | .word edge ascii =>
      let isWord := fun (c : Char) => CharSet.word.holds c && (!ascii || c.toNat < 0x80)
      edge.holds (left.any isWord) (right.any isWord)

namespace Pattern

/-- One character of a set. -/
def one (set : CharSet) : Pattern :=
  match set.only? with
  | some c => .text [c]
  | none => .run set 1 (some 1) true

/-- The parts of a sequence. -/
def parts : Pattern → List Pattern
  | .empty => []
  | .seq first second => first.parts ++ second.parts
  | pattern => [pattern]

/-- The branches of a choice. -/
def branches : Pattern → List Pattern
  | .alt first second => first.branches ++ second.branches
  | pattern => [pattern]

/-- Parts with neighbouring texts joined. -/
def joinTexts : List Pattern → List Pattern
  | [] => []
  | .text a :: rest =>
      match joinTexts rest with
      | .text b :: rest => .text (a ++ b) :: rest
      | rest => .text a :: rest
  | part :: rest => part :: joinTexts rest

/-- Parts one after the other. -/
def chain : List Pattern → Pattern
  | [] => .empty
  | [part] => part
  | part :: rest => .seq part (chain rest)

/-- Patterns one after the other. -/
def sequence (patterns : List Pattern) : Pattern :=
  chain (joinTexts (patterns.flatMap parts))

/-- A choice between branches. -/
def choice : List Pattern → Pattern
  | [] => .empty
  | [branch] => branch
  | branch :: rest => .alt branch (choice rest)

/-- The single character that a branch matches, if it is a fixed one. -/
def char? : Pattern → Option Char
  | .text [c] => some c
  | _ => none

/-- The set of which a branch matches one character. -/
def set? : Pattern → Option CharSet
  | .run set 1 (some 1) _ => some set
  | _ => none

/-- A choice between branches, as a set if they are all fixed characters or all sets. -/
def choose (patterns : List Pattern) : Pattern :=
  let branches := patterns.flatMap branches
  match branches with
  | [branch] => branch
  | branches =>
      match branches.mapM char?, branches.mapM set? with
      | some chars, _ => one (.ofList chars)
      | none, some sets => one (sets.foldl CharSet.union .nothing)
      | none, none => choice branches

/-- The parts with which two lists of parts both begin. -/
def commonParts : List Pattern → List Pattern → List Pattern
  | a :: as, b :: bs => if a = b then a :: commonParts as bs else []
  | _, _ => []

/-- The parts with which all sequences begin; a choice with a branch that is no sequence has
none. -/
def sharedParts (branches : List Pattern) : List Pattern :=
  let sequences := branches.map parts
  match sequences with
  | [] => []
  | first :: rest =>
      if sequences.all fun parts => 2 ≤ parts.length then rest.foldl commonParts first else []

/-- A choice between patterns, shared parts first. -/
def alternatives (patterns : List Pattern) : Pattern :=
  let branches := patterns.flatMap branches
  match choose branches with
  | .alt first second =>
      match sharedParts branches with
      | [] => .alt first second
      | shared =>
          let rests := branches.map fun branch => chain (branch.parts.drop shared.length)
          sequence (shared ++ [choose rests])
  | pattern => pattern

/-- The least number of characters a pattern matches, none for a pattern with a set of no
characters. -/
def leastWidth : Pattern → Option Nat
  | .empty => some 0
  | .text chars => some chars.length
  | .run set least _ _ => if set.isEmpty then none else some least
  | .seq first second => do return (← first.leastWidth) + (← second.leastWidth)
  | .alt first second => do return min (← first.leastWidth) (← second.leastWidth)
  | .repeated least _ _ body => body.leastWidth.map (least * ·)
  | .group _ body => body.leastWidth
  | .assertion _ => some 0

/-- Whether a pattern can match nothing but the empty text. -/
def isNull : Pattern → Bool
  | .empty => true
  | .text chars => chars.isEmpty
  | .run _ _ _ _ => false
  | .seq first second => first.isNull && second.isNull
  | .alt first second => first.isNull && second.isNull
  | .repeated _ most _ body => most.isSome && body.isNull
  | .group _ body => body.isNull
  | .assertion _ => true

/-- A pattern a number of times. One that matches only the empty text is not tried twice. -/
def times (least : Nat) (most : Option Nat) (greedy : Bool) (body : Pattern) : Pattern :=
  let (least, most) :=
    if body.isNull then (min least 1, some (min (most.getD 1) 1)) else (least, most)
  if least = 0 && most = some 0 then .empty
  else if least = 1 && most = some 1 then body
  else
    match body with
    | .text [c] => .run (.single c) least most greedy
    | .run set 1 (some 1) _ => .run set least most greedy
    | body => .repeated least most greedy body

end Pattern

end Receipts
