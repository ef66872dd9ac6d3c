import Receipts.Pattern.Basic
import Receipts.Text.Utf8

/-!
# Room for patterns

A pattern may not need too much room. The room is that of two automata which read
the bytes of a text, one forward with a mark at both ends of every group, and one
backward. A state takes a fixed number of bytes, and more for each transition or
choice beyond the first.

The room is computed without building the automata, since a repetition with a
count copies its body.
-/

namespace Receipts.Pattern

/-- The direction in which an automaton reads. -/
inductive Direction where
  | forward
  | backward
  deriving DecidableEq, Repr

namespace Room

/-- The room for one state. -/
def state : Nat := 32

/-- The room for a state with several choices. -/
def fork (choices : Nat) : Nat := state + 4 * choices

/-- The room for a state with several transitions. -/
def transitions (n : Nat) : Nat := state + 8 * n

/-- Texts of bytes from a first to a last byte each. -/
abbrev ByteRanges := List (Nat × Nat)

/-- The bytes of all numbers with `n` digits to the base 64. -/
def allTails (n : Nat) : ByteRanges :=
  List.replicate n (0x80, 0xBF)

/-- The bytes of the numbers from one to another. Of a number below `base * 64 ^ n`, the first digit
counts from `lead`, and the other `n` digits to the base 64 are continuation bytes. -/
def spans : Nat → Nat → Nat → Nat → List ByteRanges
  | 0, lead, first, last => [[(lead + first, lead + last)]]
  | n + 1, lead, first, last =>
      let unit := Nat.pow 64 (n + 1)
      let (a, b) := (first / unit, last / unit)
      let digit := fun (d : Nat) => (lead + d, lead + d)
      if a = b then (spans n 0x80 (first % unit) (last % unit)).map (digit a :: ·)
      else
        let opens := first % unit != 0
        let closes := last % unit != unit - 1
        let front :=
          if opens then (spans n 0x80 (first % unit) (unit - 1)).map (digit a :: ·) else []
        let back := if closes then (spans n 0x80 0 (last % unit)).map (digit b :: ·) else []
        let (a, b) := (if opens then a + 1 else a, if closes then b - 1 else b)
        let middle := if a ≤ b then [(lead + a, lead + b) :: allTails (n + 1)] else []
        front ++ middle ++ back

/-- The lengths of encodings: the characters from one to another, how many continuation bytes they
have, and what their first byte counts from. Surrogates have no encoding. -/
def encodings : List ((Nat × Nat) × Nat × Nat) :=
  [((0, 0x7F), 0, 0), ((0x80, 0x7FF), 1, 0xC0), ((0x800, 0xD7FF), 2, 0xE0),
   ((0xE000, 0xFFFF), 2, 0xE0), ((0x10000, 0x10FFFF), 3, 0xF0)]

/-- The encodings of the characters of a set. -/
def encoded (set : CharSet) : List ByteRanges :=
  set.ranges.flatMap fun range =>
    encodings.flatMap fun (limits, n, lead) =>
      let (first, last) := (max range.1 limits.1, min range.2 limits.2)
      if first ≤ last then spans n lead first last else []

/-- Texts that begin alike, with what follows their first element. -/
structure Branch (α : Type) where
  first : α
  rests : List (List α)

/-- The branches of texts, of which those that begin alike are neighbours. -/
def branchesOf {α : Type} [DecidableEq α] (texts : List (List α)) : List (Branch α) :=
  texts.foldr (fun text found =>
    match text, found with
    | [], found => found
    | a :: rest, [] => [⟨a, [rest]⟩]
    | a :: rest, branch :: others =>
        if a = branch.first then ⟨a, rest :: branch.rests⟩ :: others
        else ⟨a, [rest]⟩ :: branch :: others) []

/-- The places from which texts of at most `n` elements go on, each with all that may follow it. -/
def places {α : Type} [DecidableEq α] : Nat → List (List α) → List (List (List α))
  | 0, _ => []
  | n + 1, texts =>
      match branchesOf texts with
      | [] => []
      | branches => texts :: branches.flatMap fun branch => places n branch.rests

/-- How many elements two texts share at their beginning. -/
def commonLength {α : Type} [DecidableEq α] : List α → List α → Nat
  | a :: as, b :: bs => if a = b then commonLength as bs + 1 else 0
  | _, _ => 0

/-- The number of different beginnings of texts, of which those that begin alike are neighbours. -/
def beginnings {α : Type} [DecidableEq α] : List α → List (List α) → Nat
  | _, [] => 0
  | before, next :: rest => next.length - commonLength before next + beginnings next rest

/-- The room for one character of a set. Forward, places from which the same may follow are one;
backward, encodings share their beginnings. -/
def set (direction : Direction) (set : CharSet) : Nat :=
  if set.isAscii then state + transitions set.ranges.length
  else
    let texts := encoded set
    match direction with
    | .forward =>
        (places 4 texts).eraseDups.foldl (fun n texts => n + transitions (branchesOf texts).length)
          state
    | .backward => fork texts.length + state + state * beginnings [] texts

/-- The bytes of a text. -/
def bytes (chars : List Char) : List UInt8 := chars.flatMap String.utf8EncodeChar

/-- The fixed text that a pattern is. -/
def fixed? : Pattern → Option (List UInt8)
  | .text chars => some (bytes chars)
  | _ => none

/-- The room for a choice between fixed texts, which share their beginnings. -/
def fixedTexts (direction : Direction) (texts : List (List UInt8)) : Nat :=
  let texts := if direction = .forward then texts else texts.map List.reverse
  let beginnings := (texts.flatMap fun text =>
    (List.range text.length).map fun n => text.take n).eraseDups
  beginnings.foldl (fun room start =>
    let nexts := (texts.filter start.isPrefixOf).filterMap fun text => text[start.length]?
    match nexts.eraseDups.length with
    | 1 => room + state
    | n => room + transitions n) state

/-- The room for a repetition of a body that takes `body`. -/
def repetition (body : Nat) (usesChar : Bool) (least : Nat) (most : Option Nat) : Nat :=
  match least, most with
  | 0, some 0 => state
  | 0, some 1 => fork 2 + state + body
  | least, some most =>
      if least = most then least * body
      else max state (least * body) + state + (most - least) * (fork 2 + body)
  | 0, none => if usesChar then fork 2 + body else body + 2 * fork 2 + state
  | least, none => least * body + fork 2

end Room

/-- The room that a pattern takes in an automaton, as one of several branches or on its own. A choice
among branches is part of the choice it stands in. -/
def roomAs (direction : Direction) : Bool → Pattern → Nat
  | _, .empty => Room.state
  | _, .text chars => Room.state * (Room.bytes chars).length
  | _, .run set least most _ => Room.repetition (Room.set direction set) true least most
  | _, .seq first second => first.roomAs direction false + second.roomAs direction false
  | isBranch, .alt first second =>
      let inside := first.roomAs direction true + second.roomAs direction true
      let branches := (Pattern.alt first second).branches
      if isBranch then inside
      else
        match branches.mapM Room.fixed? with
        | some texts => Room.fixedTexts direction texts
        | none => Room.fork branches.length + Room.state + inside
  | _, .repeated least most _ body =>
      Room.repetition (body.roomAs direction false) (body.leastWidth.any fun n => n != 0) least most
  | _, .group _ body =>
      body.roomAs direction false + if direction = .forward then 2 * Room.state else 0
  | _, .assertion _ => Room.state

/-- The room that a pattern takes in an automaton. -/
def room (direction : Direction) (pattern : Pattern) : Nat :=
  pattern.roomAs direction false

/-- The room that a pattern may take. -/
def greatestRoom : Nat := 10 * 1024 * 1024

/-- Whether both automata of a pattern have room. Each begins with a loop over the text before the
match, and ends with a state in which the match is found. -/
def hasRoom (pattern : Pattern) : Bool :=
  let search := Room.fork 2 + 2 * Room.state
  let marks := 2 * Room.state
  search + marks + pattern.room .forward + Room.state ≤ greatestRoom
    && search + pattern.room .backward + Room.state ≤ greatestRoom

end Receipts.Pattern
