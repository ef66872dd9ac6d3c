import Receipts.Json.Scan
import Receipts.Json.Value

/-!
# Reading JSON

Containers are read from the left, and the first fault ends the reading. A value
that is kept may lie at most 127 containers deep. A value that is passed over is
only checked for form: its depth is not limited, its texts may hold stray bytes,
and its numbers may be of any size.

The loops take their fuel from the length of the input, and each turn uses up
at least one symbol, so it never runs out.
-/

namespace Receipts.Json

open Scan (skipSpace)

/-- A value read from the front of the input, and the rest of it. -/
abbrev Outcome (α : Type) := Except Fault (α × Input)

/-- A fault at the place being read. -/
def fault {α : Type} (cause : Cause) : Except Fault α := .error ⟨[], cause⟩

/-- A result whose fault, if any, lies at the place being read. -/
def here {α : Type} : Except Cause α → Except Fault α
  | .ok a => .ok a
  | .error cause => fault cause

/-- A result whose fault, if any, lies one step further in. -/
def within {α : Type} (step : Step) : Except Fault α → Except Fault α
  | .ok a => .ok a
  | .error f => .error (f.under step)

namespace Read

/-- How many containers may be open around a value that is kept. -/
def maxDepth : Nat := 127

/-- Reads a value where something else was expected, to tell what stood there. -/
def found (s : Input) : Except Cause Found :=
  match s with
  | [] => .error .endInValue
  | some 'n' :: s => (Scan.word ['u', 'l', 'l'] s).map fun _ => .null
  | some 't' :: s => (Scan.word ['r', 'u', 'e'] s).map fun _ => .bool true
  | some 'f' :: s => (Scan.word ['a', 'l', 's', 'e'] s).map fun _ => .bool false
  | some '-' :: s => (Scan.number true s).map fun (n, _) => .number n
  | some '"' :: s => (Scan.text s).map fun (s, _) => .text s
  | some '[' :: _ => .ok .list
  | some '{' :: _ => .ok .object
  | x :: s =>
      if Scan.isDigit x then (Scan.number false (x :: s)).map fun (n, _) => .number n
      else .error .expectedValue

/-- The fault of a value that is not what was expected. -/
def mismatch {α : Type} (expected : String) (s : Input) : Except Fault α :=
  match found s with
  | .ok found => fault (.wrongKind found expected)
  | .error cause => fault cause

/-- The input at the next item of a list, nothing at its end. -/
def nextItem (first : Bool) (s : Input) : Except Cause (Option Input) :=
  match skipSpace s with
  | [] => .error .endInList
  | some ']' :: _ => .ok none
  | x :: s =>
      if first then .ok (some (x :: s))
      else if x == some ',' then
        match skipSpace s with
        | [] => .error .endInValue
        | some ']' :: _ => .error .trailingComma
        | s => .ok (some s)
      else .error .expectedListEnd

/-- The rest of the input after the closing bracket of a list. -/
def endList (s : Input) : Except Cause Input :=
  match skipSpace s with
  | [] => .error .endInList
  | some ']' :: s => .ok s
  | some ',' :: s =>
      match skipSpace s with
      | some ']' :: _ => .error .trailingComma
      | _ => .error .trailingCharacters
  | _ => .error .trailingCharacters

/-- Reads the items of a list after its opening bracket. `read` holds those so far, latest first. -/
def itemsFrom {α : Type} (item : Input → Outcome α) :
    Nat → List α → Input → Outcome (List α)
  | 0, _, _ => fault .endInList
  | fuel + 1, read, s =>
      match nextItem read.isEmpty s with
      | .error cause => fault cause
      | .ok none => (here (endList s)).map fun rest => (read.reverse, rest)
      | .ok (some s) =>
          match within (.item read.length) (item s) with
          | .error f => .error f
          | .ok (a, s) => itemsFrom item fuel (a :: read) s

/-- Reads the items of a list after its opening bracket. -/
def items {α : Type} (item : Input → Outcome α) (s : Input) : Outcome (List α) :=
  itemsFrom item (s.length + 1) [] s

/-- The next key of an object with the input after it, nothing at its end. -/
def nextKey (first : Bool) (s : Input) : Except Cause (Option (String × Input)) :=
  match skipSpace s with
  | [] => .error .endInObject
  | some '}' :: _ => .ok none
  | x :: s =>
      if first then
        if x == some '"' then (Scan.text s).map some else .error .keyNotText
      else if x == some ',' then
        match skipSpace s with
        | [] => .error .endInValue
        | some '"' :: s => (Scan.text s).map some
        | some '}' :: _ => .error .trailingComma
        | _ => .error .keyNotText
      else .error .expectedObjectEnd

/-- The input after the colon between a key and its value. -/
def colon (s : Input) : Except Cause Input :=
  match skipSpace s with
  | [] => .error .endInObject
  | some ':' :: s => .ok s
  | _ => .error .expectedColon

/-- Reads the members of an object after its opening brace. `member` takes what was read so far and
a key, and either refuses the key or reads the value. -/
def membersFrom {σ : Type} (member : σ → String → Except Cause (Input → Outcome σ)) :
    Nat → Bool → σ → Input → Outcome σ
  | 0, _, _, _ => fault .endInObject
  | fuel + 1, first, read, s =>
      match within .unknown (here (nextKey first s)) with
      | .error f => .error f
      | .ok none => .ok (read, (skipSpace s).drop 1)
      | .ok (some (key, s)) =>
          match member read key, colon s with
          | .error cause, _ => fault cause
          | .ok _, .error cause => fault cause
          | .ok value, .ok s =>
              match within (.member key) (value s) with
              | .error f => .error f
              | .ok (read, s) => membersFrom member fuel false read s

/-- Reads the members of an object after its opening brace. -/
def members {σ : Type} (member : σ → String → Except Cause (Input → Outcome σ)) (start : σ)
    (s : Input) : Outcome σ :=
  membersFrom member (s.length + 1) true start s

/-- Reads all members of an object with one reader of values. -/
def membersOf (value : Input → Outcome Json) (s : Input) : Outcome (List (String × Json)) :=
  (members (fun read key =>
      .ok fun s => (value s).map fun (json, s) => ((key, json) :: read, s)) [] s).map
    fun (read, s) => (read.reverse, s)

/-- Reads any value; `depth` more containers may be opened. -/
def value (depth : Nat) (s : Input) : Outcome Json :=
  match skipSpace s with
  | some '[' :: s =>
      match depth with
      | 0 => fault .tooDeep
      | depth + 1 => (items (value depth) s).map fun (items, s) => (.list items, s)
  | some '{' :: s =>
      match depth with
      | 0 => fault .tooDeep
      | depth + 1 => (membersOf (value depth) s).map fun (members, s) => (.object members, s)
  | [] => fault .endInValue
  | some 'n' :: s => here ((Scan.word ['u', 'l', 'l'] s).map fun s => (.null, s))
  | some 't' :: s => here ((Scan.word ['r', 'u', 'e'] s).map fun s => (.bool true, s))
  | some 'f' :: s => here ((Scan.word ['a', 'l', 's', 'e'] s).map fun s => (.bool false, s))
  | some '-' :: s => here ((Scan.number true s).map fun (n, s) => (.number n, s))
  | some '"' :: s => here ((Scan.text s).map fun (t, s) => (.text t, s))
  | x :: s =>
      if Scan.isDigit x then here ((Scan.number false (x :: s)).map fun (n, s) => (.number n, s))
      else fault .expectedValue

/-- What is open around a value that is passed over. -/
inductive Frame where
  | list
  | object
  deriving DecidableEq, Repr

/-- What a pass over a value is about to read: a value, or what follows one or an opening. -/
inductive Pass where
  | atValue
  | atNext (afterValue : Bool)
  deriving DecidableEq, Repr

/-- Passes over the key and the colon of a member. -/
def skipKey (s : Input) : Except Cause Input :=
  match skipSpace s with
  | [] => .error .endInObject
  | some '"' :: s => (Scan.skipText s).bind colon
  | _ => .error .keyNotText

/-- Passes over values until no container is open. -/
def skipFrom : Nat → Pass → List Frame → Input → Except Cause Input
  | 0, _, _, _ => .error .endInValue
  | fuel + 1, .atValue, frames, s =>
      match skipSpace s with
      | [] => .error .endInValue
      | some '[' :: s => skipFrom fuel (.atNext false) (.list :: frames) s
      | some '{' :: s => skipFrom fuel (.atNext false) (.object :: frames) s
      | some 'n' :: s =>
          match Scan.word ['u', 'l', 'l'] s with
          | .ok s => skipFrom fuel (.atNext true) frames s
          | .error cause => .error cause
      | some 't' :: s =>
          match Scan.word ['r', 'u', 'e'] s with
          | .ok s => skipFrom fuel (.atNext true) frames s
          | .error cause => .error cause
      | some 'f' :: s =>
          match Scan.word ['a', 'l', 's', 'e'] s with
          | .ok s => skipFrom fuel (.atNext true) frames s
          | .error cause => .error cause
      | some '-' :: s =>
          match Scan.skipNumber s with
          | .ok s => skipFrom fuel (.atNext true) frames s
          | .error cause => .error cause
      | some '"' :: s =>
          match Scan.skipText s with
          | .ok s => skipFrom fuel (.atNext true) frames s
          | .error cause => .error cause
      | x :: s =>
          if Scan.isDigit x then
            match Scan.skipNumber (x :: s) with
            | .ok s => skipFrom fuel (.atNext true) frames s
            | .error cause => .error cause
          else .error .expectedValue
  | _ + 1, .atNext _, [], s => .ok s
  | fuel + 1, .atNext afterValue, .list :: frames, s =>
      match skipSpace s with
      | [] => .error .endInList
      | some ']' :: s => skipFrom fuel (.atNext true) frames s
      | x :: s =>
          if !afterValue then skipFrom fuel .atValue (.list :: frames) (x :: s)
          else if x == some ',' then skipFrom fuel .atValue (.list :: frames) s
          else .error .expectedListEnd
  | fuel + 1, .atNext afterValue, .object :: frames, s =>
      match skipSpace s with
      | [] => .error .endInObject
      | some '}' :: s => skipFrom fuel (.atNext true) frames s
      | x :: s =>
          if afterValue && x != some ',' then .error .expectedObjectEnd
          else
            match skipKey (if afterValue then s else x :: s) with
            | .ok s => skipFrom fuel .atValue (.object :: frames) s
            | .error cause => .error cause

theorem skipFrom_closed (fuel : Nat) (afterValue : Bool) (s : Input) :
    skipFrom (fuel + 1) (.atNext afterValue) [] s = .ok s := by
  rw [skipFrom]

/-- Passes over one value. -/
def skipValue (s : Input) : Except Cause Input :=
  skipFrom (2 * s.length + 2) .atValue [] s

/-- What was read, when nothing but blanks follows it. -/
def complete {α : Type} : Outcome α → Except Fault α
  | .error f => .error f
  | .ok (a, rest) => if (skipSpace rest).isEmpty then .ok a else fault .trailingCharacters

end Read

/-- Reads a document that holds any one value. -/
def parse (s : Input) : Except Fault Json :=
  Read.complete (Read.value Read.maxDepth s)

end Receipts.Json
