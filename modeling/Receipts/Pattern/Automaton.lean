import Receipts.Pattern.Basic

/-!
# Automata of patterns

The automaton of a pattern is in several states at once as it reads a text, in
the order in which the ways that lead there are preferred. A way that comes to a
state which a preferred way has reached at the same place goes no further, since
the preferred way has tried, or is trying, all that comes after it. So the time
for a search is bounded by the size of the automaton times the length of the
text, and a loop that uses no character ends.

Two peculiarities of the construction decide what a group holds when a turn of a
repetition uses no character. A repetition without end of a body that always
uses a character begins with the choice between the body and the end, and every
turn comes back to that choice. If the body may use none, the choice before the
first turn and the choice after each turn are two.
-/

namespace Receipts.Pattern

/-- What an automaton does in a state. -/
inductive Step where
  | char (set : CharSet) (next : Nat)
  | fork (choices : List Nat)
  | check (condition : Assertion) (next : Nat)
  | opening (next : Nat)
  | closing (next : Nat)
  | accept
  deriving Repr

/-- The steps of an automaton, to which states are added from the end of the pattern to its
beginning. -/
abbrev Steps := Array Step

namespace Steps

/-- Adds a state. -/
def place (step : Step) (steps : Steps) : Nat × Steps :=
  (steps.size, steps.push step)

/-- The two choices at a repetition, the preferred one first. -/
def turnOrEnd (greedy : Bool) (turn next : Nat) : Step :=
  .fork (if greedy then [turn, next] else [next, turn])

/-- Adds a body `n` times. -/
def copies (body : Nat → Steps → Nat × Steps) : Nat → Nat → Steps → Nat × Steps
  | 0, next, steps => (next, steps)
  | n + 1, next, steps =>
      let (start, steps) := body next steps
      copies body n start steps

/-- Adds a body at most `n` times; each time may be the last. -/
def optionalCopies (body : Nat → Steps → Nat × Steps) (greedy : Bool) (next : Nat) :
    Nat → Nat → Steps → Nat × Steps
  | 0, start, steps => (start, steps)
  | n + 1, start, steps =>
      let (turn, steps) := body start steps
      let (start, steps) := steps.place (turnOrEnd greedy turn next)
      optionalCopies body greedy next n start steps

/-- Adds a body any number of times but at least once. The result is the state of its first turn,
and the state of the choice after a turn. -/
def loop (body : Nat → Steps → Nat × Steps) (greedy : Bool) (next : Nat) (steps : Steps) :
    (Nat × Nat) × Steps :=
  let (choice, steps) := steps.place .accept
  let (turn, steps) := body choice steps
  ((turn, choice), steps.setIfInBounds choice (turnOrEnd greedy turn next))

/-- Adds a repetition of a body. -/
def repetition (body : Nat → Steps → Nat × Steps) (usesChar : Bool) (least : Nat)
    (most : Option Nat) (greedy : Bool) (next : Nat) (steps : Steps) : Nat × Steps :=
  match most, least with
  | some most, least =>
      let (start, steps) := optionalCopies body greedy next (most - least) next steps
      copies body least start steps
  | none, 0 =>
      let ((turn, choice), steps) := loop body greedy next steps
      if usesChar then (choice, steps) else steps.place (turnOrEnd greedy turn next)
  | none, least + 1 =>
      let ((turn, _), steps) := loop body greedy next steps
      copies body least turn steps

end Steps

/-- Adds the states of a pattern that goes on in the state `next`, with those that mark where the
wanted group begins and ends. -/
def emit (wanted : Nat) : Pattern → Nat → Steps → Nat × Steps
  | .empty, next, steps => (next, steps)
  | .text chars, next, steps =>
      chars.foldr (fun c (next, steps) => Steps.place (.char (.single c) next) steps) (next, steps)
  | .run set least most greedy, next, steps =>
      steps.repetition (fun next => Steps.place (.char set next)) true least most greedy next
  | .seq first second, next, steps =>
      let (between, steps) := second.emit wanted next steps
      first.emit wanted between steps
  | .alt first second, next, steps =>
      let (right, steps) := second.emit wanted next steps
      let (left, steps) := first.emit wanted next steps
      steps.place (.fork [left, right])
  | .repeated least most greedy body, next, steps =>
      let usesChar := body.leastWidth.any fun n => n != 0
      steps.repetition (body.emit wanted) usesChar least most greedy next
  | .group index body, next, steps =>
      if index = wanted then
        let (close, steps) := steps.place (.closing next)
        let (start, steps) := body.emit wanted close steps
        steps.place (.opening start)
      else body.emit wanted next steps
  | .assertion condition, next, steps => steps.place (.check condition next)

/-- An automaton for a pattern and one of its groups. -/
structure Automaton where
  steps : Steps
  start : Nat

/-- The automaton of a pattern. -/
def automaton (pattern : Pattern) (wanted : Nat) : Automaton :=
  let (start, steps) := pattern.emit wanted 0 #[.accept]
  ⟨steps, start⟩

/-- A way that has come to a state: where the group was opened last, and where it matched last. -/
structure Thread where
  state : Nat
  opened : Nat := 0
  found : Option (Nat × Nat) := none

/-- The ways that have come to a place, latest first, and for every state the last round in which a
way came to it. -/
structure Frontier where
  seen : Array Nat
  threads : List Thread

namespace Automaton

/-- How many ways can be waiting at one place. -/
def forks (automaton : Automaton) : Nat :=
  automaton.steps.foldl (fun n step =>
    match step with
    | .fork choices => n + choices.length
    | _ => n + 1) 1

/-- Follows waiting ways, the preferred ones first, to the states in which a character is read or
the match ends. -/
def reach (automaton : Automaton) (position : Nat) (left right : Option Char) :
    Nat → List Thread → Frontier → Frontier
  | 0, _, frontier => frontier
  | _, [], frontier => frontier
  | fuel + 1, thread :: waiting, frontier =>
      if frontier.seen.getD thread.state 0 = position + 1 then
        automaton.reach position left right fuel waiting frontier
      else
        let seen := frontier.seen.setIfInBounds thread.state (position + 1)
        match automaton.steps.getD thread.state .accept with
        | .char _ _ | .accept =>
            automaton.reach position left right fuel waiting ⟨seen, thread :: frontier.threads⟩
        | .fork choices =>
            automaton.reach position left right fuel
              (choices.map (fun state => { thread with state }) ++ waiting)
              ⟨seen, frontier.threads⟩
        | .check condition next =>
            if condition.holds left right then
              automaton.reach position left right fuel ({ thread with state := next } :: waiting)
                ⟨seen, frontier.threads⟩
            else automaton.reach position left right fuel waiting ⟨seen, frontier.threads⟩
        | .opening next =>
            automaton.reach position left right fuel
              ({ thread with state := next, opened := position } :: waiting)
              ⟨seen, frontier.threads⟩
        | .closing next =>
            automaton.reach position left right fuel
              ({ thread with state := next, found := some (thread.opened, position) } :: waiting)
              ⟨seen, frontier.threads⟩

/-- The ways up to the first one that ends the match, and that one. -/
def untilAccept (automaton : Automaton) : List Thread → List Thread × Option Thread
  | [] => ([], none)
  | thread :: rest =>
      match automaton.steps.getD thread.state .accept with
      | .accept => ([], some thread)
      | _ =>
          let (before, accepted) := automaton.untilAccept rest
          (thread :: before, accepted)

/-- The ways that go on over a character. -/
def passing (automaton : Automaton) (c : Char) (threads : List Thread) : List Thread :=
  threads.filterMap fun thread =>
    match automaton.steps.getD thread.state .accept with
    | .char set next => if set.holds c then some { thread with state := next } else none
    | _ => none

/-- Reads a text from a place on. The ways at the place are given, and the best match so far; as
long as there is none, a match may begin at each place. -/
def run (automaton : Automaton) (fuel : Nat) :
    List Thread → Array Nat → Option Thread → Nat → Option Char → List Char → Option Thread
  | waiting, seen, best, position, left, s =>
      let waiting := if best.isNone then waiting ++ [⟨automaton.start, 0, none⟩] else waiting
      if waiting.isEmpty then best
      else
        let frontier :=
          automaton.reach position left s.head? (fuel + waiting.length) waiting ⟨seen, []⟩
        let (threads, accepted) := automaton.untilAccept frontier.threads.reverse
        let best := accepted.or best
        match s with
        | [] => best
        | c :: rest =>
            automaton.run fuel (automaton.passing c threads) frontier.seen best (position + 1)
              (some c) rest
  termination_by _ _ _ _ _ s => s.length

end Automaton

/-- Where a group matches in the leftmost match of a text, found by its automaton. -/
def findByAutomaton? (pattern : Pattern) (index : Nat) (s : List Char) : Option (Nat × Nat) :=
  let automaton := pattern.automaton index
  (automaton.run automaton.forks [] (Array.replicate automaton.steps.size 0) none 0 none s).bind
    Thread.found

end Receipts.Pattern
