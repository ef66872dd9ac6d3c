import Receipts.Pattern.Ways
import Receipts.Proofs.Outline.Basic

/-!
# Matching an outline

A pattern is tried on an outline as it is tried on a document, and the verdict holds for all
documents of the outline: the pattern fails on all of them, or it is found on all of them with its
first group at the same marks, or nothing is said. A match may stop inside a hole. All such places
are treated as one, of which it is only said that the pattern fails there.
-/

namespace Receipts.Outline

/-- The rest of the text of a hole that stands before the next mark, if any, and whether it may be
empty. -/
abbrev Front := Option (Hole × Bool)

/-- Places in documents of an outline, with the marks at which the first group begins and ends, if
they are known. -/
structure Place where
  front : Front
  rest : Outline
  group : Option (Outline × Outline) := none

/-- What is said of a match on all documents of an outline. -/
inductive Verdict where
  | fails
  | finds (first last : Outline)
  | unclear
  deriving DecidableEq

/-- The verdict of a second try, if the first fails. -/
def Verdict.orElse : Verdict → Verdict → Verdict
  | fails, other => other
  | verdict, _ => verdict

/-- Takes back what was found, if it was not found on all documents. -/
def Verdict.ifSure (sure : Bool) : Verdict → Verdict
  | finds first last => if sure then finds first last else unclear
  | verdict => verdict

/-! ## Fixed texts -/

/-- What is left after a fixed text: known marks, or any of several rests. -/
inductive Eaten where
  | exactly (rest : Outline)
  | among (ends : List (Front × Outline))

/-- The rests after a fixed text. -/
def Eaten.ends : Eaten → List (Front × Outline)
  | exactly rest => [(none, rest)]
  | among ends => ends

/-- The ways to cut a text into two that are not empty. -/
def cuts : List Char → List (List Char × List Char)
  | c :: d :: t => ([c], d :: t) :: (cuts (d :: t)).map fun cut => (c :: cut.1, cut.2)
  | _ => []

/-- The rests after a fixed text that begins in the text of a hole: it ends in the hole, or the text
of the hole ends with the first part of a cut and the second part follows. -/
def eatWithin (hole : Hole) (rest : Outline) (eatRest : List Char → Eaten) (t : List Char) :
    List (Front × Outline) :=
  (if hole.mayContain t then [(some (hole, true), rest)] else []) ++
    ((cuts t).filter fun cut =>
      !(eatRest cut.2).ends.isEmpty && hole.mayEndWith cut.1).flatMap fun cut =>
        (eatRest cut.2).ends

/-- The rests after a fixed text. -/
def eat : Outline → List Char → Eaten
  | rest, [] => .exactly rest
  | [], _ :: _ => .among []
  | .char d :: rest, c :: t => if c = d then eat rest t else .among []
  | .hole hole :: rest, c :: t =>
      .among (eatWithin hole rest (fun t => eat rest t) (c :: t) ++
        if hole.optional then (eat rest (c :: t)).ends else [])

/-- The rests after a fixed text that may begin in the text of a hole. -/
def eatFrom (rest : Outline) (t : List Char) : Front → Eaten
  | none => eat rest t
  | some (hole, mayBeEmpty) =>
      .among (eatWithin hole rest (eat rest) t ++ if mayBeEmpty then (eat rest t).ends else [])

/-! ## Runs -/

/-- Places where a run may stop. If it is sure, there is one on each document, and otherwise any
number of them. -/
structure Stop where
  front : Front
  rest : Outline
  sure : Bool

/-- The stop at known marks, where `need` characters are still needed at most, or exactly. -/
def stopHere (rest : Outline) (need : Nat) (exact : Bool) : List Stop :=
  if need = 0 then [⟨none, rest, true⟩] else if exact then [] else [⟨none, rest, false⟩]

/-- The stops of a run from known marks on, nearest first, if they are known. Where the text of a
hole may be empty, no stop is told from those in the text. -/
def stretch (set : CharSet) : Outline → Option Nat → Nat → Bool → Option (List Stop)
  | [], _, need, exact => some (stopHere [] need exact)
  | .char c :: rest, most, need, exact =>
      if most = some 0 || !set.holds c then some (stopHere (.char c :: rest) need exact)
      else
        (stretch set rest (most.map (· - 1)) (need - 1) exact).map fun stops =>
          stopHere (.char c :: rest) need exact ++ stops
  | .hole hole :: rest, most, need, exact =>
      if hole.optional then
        if hole.alphabet.within set && most = none then
          (stretch set rest none need false).map fun stops =>
            ⟨some (hole, true), rest, false⟩ :: stops
        else none
      else if most = some 0 || set = CharSet.blank then
        some (stopHere (.hole hole :: rest) need exact)
      else if !hole.alphabet.within set then none
      else if hole.single then
        (stretch set rest (most.map (· - 1)) (need - 1) exact).map fun stops =>
          stopHere (.hole hole :: rest) need exact ++ stops
      else if most = none then
        (stretch set rest none (need - 1) false).map fun stops =>
          stopHere (.hole hole :: rest) need exact ++ ⟨some (hole, false), rest, false⟩ :: stops
      else none

/-- The stops of a run that may begin in the text of a hole. -/
def stretchFrom (set : CharSet) (rest : Outline) (most : Option Nat) (need : Nat) :
    Front → Option (List Stop)
  | none => stretch set rest most need true
  | some (hole, mayBeEmpty) =>
      if hole.alphabet.within set && most = none then
        (stretch set rest none need false).map fun stops =>
          ⟨some (hole, mayBeEmpty), rest, false⟩ :: stops
      else none

/-- The verdict of the first stop that does not fail. -/
def firstOf (next : Front → Outline → Verdict) : List Stop → Verdict
  | [] => .fails
  | stop :: stops =>
      ((next stop.front stop.rest).ifSure stop.sure).orElse (firstOf next stops)

/-! ## Patterns -/

/-- Tries a pattern at places and goes on with `next`. -/
def attempt : Pattern → (Place → Verdict) → Place → Verdict
  | .empty, next, place => next place
  | .text t, next, place =>
      match eatFrom place.rest t place.front with
      | .exactly rest => next { place with front := none, rest }
      | .among ends =>
          if ends.all fun e => next { place with front := e.1, rest := e.2 } = .fails then .fails
          else .unclear
  | .run set least most greedy, next, place =>
      match stretchFrom set place.rest most least place.front with
      | some stops =>
          firstOf (fun front rest => next { place with front, rest })
            (if greedy then stops.reverse else stops)
      | none => .unclear
  | .seq first second, next, place => attempt first (attempt second next) place
  | .alt first second, next, place =>
      (attempt first next place).orElse (attempt second next place)
  | .repeated 0 (some 1) true body, next, place => (attempt body next place).orElse (next place)
  | .repeated 0 (some 1) false body, next, place => (next place).orElse (attempt body next place)
  | .repeated _ _ _ _, _, _ => .unclear
  | .group 1 body, next, place =>
      attempt body (fun after =>
        next { after with
          group :=
            if place.front = none && after.front = none then some (place.rest, after.rest)
            else none }) place
  | .group _ body, next, place => attempt body next place
  | .assertion _, _, _ => .unclear

/-- The end of a match: it is found if the marks of the first group are known. -/
def conclude (place : Place) : Verdict :=
  match place.group with
  | some (first, last) => .finds first last
  | none => .unclear

/-- The fixed text that all matches of a pattern begin with. -/
def lead : Pattern → List Char
  | .text t => t
  | .seq first _ => lead first
  | .group _ body => lead body
  | _ => []

/-! ## Searches

An outline is searched block by block, the blocks being the static texts and the slots of a
document. A block of known marks in which no match can begin is passed whatever stands behind it, so
that the evaluation of several searches looks through it only once. -/

/-- Whether a text goes on as marks do, as far as both are known. -/
def agrees : List Char → Outline → Bool
  | c :: t, .char d :: rest => c = d && agrees t rest
  | _, _ => true

/-- Whether a text that begins with `c` may begin within a block, whatever stands behind the
block. -/
def mayBegin (c : Char) (t : List Char) : Outline → Bool
  | [] => false
  | .char d :: rest => (c = d && agrees t rest) || mayBegin c t rest
  | .hole _ :: _ => true

/-- Whether a match that begins with a text may begin within a block. -/
def mayHold : List Char → Outline → Bool
  | [], _ => true
  | c :: t, block => mayBegin c t block

/-- The verdict of a search through a block, where `later` is the verdict on what stands `behind`
it. In the text of a hole a match may begin at the front or behind. If the text may be empty, its
front is not told from what is behind. -/
def seekThrough (pattern : Pattern) (behind : Outline) (later : Verdict) : Outline → Verdict
  | [] => later
  | .char c :: rest =>
      if agrees (lead pattern) (.char c :: rest) then
        (attempt pattern conclude ⟨none, .char c :: (rest ++ behind), none⟩).orElse
          (seekThrough pattern behind later rest)
      else seekThrough pattern behind later rest
  | .hole hole :: rest =>
      let inside := ((attempt pattern conclude
        ⟨some (hole, false), rest ++ behind, none⟩).ifSure false).orElse
          (seekThrough pattern behind later rest)
      if hole.optional then inside
      else (attempt pattern conclude ⟨none, .hole hole :: (rest ++ behind), none⟩).orElse inside

/-- The verdict of a search through blocks. -/
def seek (pattern : Pattern) : List Outline → Verdict
  | [] => attempt pattern conclude ⟨none, [], none⟩
  | block :: blocks =>
      if mayHold (lead pattern) block then
        seekThrough pattern blocks.flatten (seek pattern blocks) block
      else seek pattern blocks

/-- Whether a search finds the first group at given marks, on all documents of an outline. -/
def recovers (pattern : Pattern) (blocks : List Outline) (target : Outline) : Bool :=
  match seek pattern blocks with
  | .finds first last =>
      first.take target.length = target && (first.drop target.length).length = last.length
  | _ => false

/-- Whether a search finds no first group, or only blanks in it, on all documents of an outline. -/
def misses (pattern : Pattern) (blocks : List Outline) : Bool :=
  match seek pattern blocks with
  | .fails => true
  | .finds first last =>
      decide (last.length ≤ first.length) &&
        (first.take (first.length - last.length)).all Mark.isBlank
  | .unclear => false

end Receipts.Outline
