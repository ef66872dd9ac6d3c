import Receipts.Pattern.Bracket
import Receipts.Pattern.Room
import Receipts.Text.Word

/-!
# Written patterns

The notation of patterns: alternatives with `|`, groups in parentheses, sets in
brackets, repetition with `*`, `+`, `?` and counts in braces, `?` after a
repetition to make it lazy, escapes with a backslash, and flags in a group of
their own. What cannot be read, look-around and back references among it, is no
pattern. Nor is what is nested too deep: sets, groups, repetitions, sequences and
choices are one level each.

The readers take fuel from the length of the text. Each call uses up at least
one character, so the fuel never runs out.
-/

namespace Receipts.Pattern

/-- A part of a sequence: a pattern with the depth of its notation, or a switch of modes. -/
inductive Part where
  | item (pattern : Pattern) (depth : Nat)
  | switch
  deriving Repr

/-- The pattern of a part. -/
def Part.toPattern : Part → Pattern
  | .item pattern _ => pattern
  | .switch => .empty

/-- The depth of a part. -/
def Part.depth : Part → Nat
  | .item _ depth => depth
  | .switch => 0

/-- The rest of a written pattern, with the modes in force, the groups and names so far, and how
many more groups may be nested here. -/
structure Source where
  rest : List Char
  modes : Modes
  groups : Nat
  names : List (List Char)
  room : Nat

/-- What is read of a group: whole alternatives and the parts of the current one, latest first. -/
structure Branches where
  finished : List Part := []
  current : List Part := []

/-- The branches with one part more. -/
def Branches.push (branches : Branches) (part : Part) : Branches :=
  { branches with current := part :: branches.current }

/-- A sequence of parts given latest first. -/
def sequenceOf (parts : List Part) : Part :=
  let depth := (parts.map Part.depth).foldl max 0
  .item (sequence (parts.reverse.map Part.toPattern))
    (if 2 ≤ parts.length then depth + 1 else depth)

/-- The branches after the end of an alternative. -/
def Branches.next (branches : Branches) : Branches :=
  ⟨sequenceOf branches.current :: branches.finished, []⟩

/-- The alternatives of a group. -/
def Branches.close (branches : Branches) : Part :=
  match branches.finished with
  | [] => sequenceOf branches.current
  | _ =>
      let parts := branches.next.finished
      .item (alternatives (parts.reverse.map Part.toPattern))
        ((parts.map Part.depth).foldl max 0 + 1)

/-- The number that digits spell, if there are any and it fits 32 bits. -/
def count? (digits : List Char) : Option Nat :=
  if digits.isEmpty || !digits.all Char.isDigit then none
  else
    let n := digits.foldl (fun n d => n * 10 + (d.toNat - '0'.toNat)) 0
    if n < UInt32.size then some n else none

/-- Reads the counts of a repetition after their opening brace. Blanks may stand around a number,
but not in the place of one. -/
def counts? (modes : Modes) (s : List Char) : Option ((Nat × Option Nat) × List Char) := do
  let (inside, after) ← modes.braced? false s
  let least ← count? (Text.trim (inside.takeWhile (· != ',')))
  match inside.dropWhile (· != ',') with
  | [] => some ((least, some least), after)
  | _ :: [] => some ((least, none), after)
  | _ :: most => do
      let most ← count? (Text.trim most)
      if least ≤ most then some ((least, some most), after) else none

/-- Repeats the part read last; there has to be one. A question mark that follows makes the
repetition lazy. -/
def repeatLast? (source : Source) (branches : Branches) (least : Nat) (most : Option Nat)
    (rest : List Char) : Option (Source × Branches) :=
  match branches.current with
  | .item last depth :: earlier =>
      let lazily := rest.head? == some '?'
      let rest := if lazily then rest.drop 1 else rest
      let part := Part.item (times least most (lazily == source.modes.swapGreed) last)
        (depth + 1)
      some ({ source with rest }, ⟨branches.finished, part :: earlier⟩)
  | _ => none

/-- Whether characters are the name of a group. -/
def isGroupName (name : List Char) : Bool :=
  match name with
  | [] => false
  | c :: rest =>
      (c == '_' || Text.isAlphabetic c) &&
        rest.all fun c => ['_', '.', '[', ']'].contains c || Text.isAlphanumeric c

/-- What a group opens with: it captures, it only groups, or it switches modes for what follows. -/
inductive Opening where
  | capture
  | named (name : List Char)
  | plain (modes : Modes)
  | switch (modes : Modes)

/-- Reads what follows an opening parenthesis. -/
def opening? (modes : Modes) (s : List Char) : Option (Opening × List Char) :=
  let named := fun (s : List Char) =>
    match s.dropWhile (· != '>') with
    | '>' :: rest =>
        let name := s.takeWhile (· != '>')
        if isGroupName name then some (Opening.named name, rest) else none
    | _ => none
  match modes.skip s with
  | '?' :: 'P' :: '<' :: s => named s
  | '?' :: '<' :: s => named s
  | '?' :: s =>
      let flags := s.takeWhile fun c => c != ')' && c != ':'
      match s.dropWhile fun c => c != ')' && c != ':' with
      | ':' :: rest => (modes.switch? true [] flags).map fun modes => (.plain modes, rest)
      | ')' :: rest =>
          if flags.isEmpty then none
          else (modes.switch? true [] flags).map fun modes => (.switch modes, rest)
      | _ => none
  | s => some (.capture, s)

/-- One character that stands for itself, in the letter case that the modes ask for. -/
def literal (modes : Modes) (c : Char) : Pattern :=
  one (modes.fold (.single c))

/-- The pattern of an escape outside a set. Under ASCII a byte has to be an ASCII character. -/
def Escape.toPattern? (modes : Modes) : Escape → Option Pattern
  | .char c => some (literal modes c)
  | .byte c => if modes.ascii && 0x80 ≤ c.toNat then none else some (literal modes c)
  | .set chars => some (one chars)
  | .condition place => some (.assertion place)

/-- The pattern of a character that stands for itself, for a condition or for a set. -/
def plainChar? (modes : Modes) : Char → Option Pattern
  | '.' =>
      let lineEnds := if modes.crlf then ['\r', '\n'] else ['\n']
      if modes.ascii then none
      else some (one (if modes.dotAll then .any else CharSet.noneOf lineEnds))
  | '^' => some (.assertion (if modes.multiLine then .lineStart modes.crlf else .textStart))
  | '$' => some (.assertion (if modes.multiLine then .lineEnd modes.crlf else .textEnd))
  | c => some (literal modes c)

/-- Reads the inside of a group with `inside`, and its closing parenthesis. -/
def groupWith (inside : Source → Option (Part × Source)) (source : Source) :
    Option (Part × Source) :=
  match source.room with
  | 0 => none
  | room + 1 =>
      match inside { source with room } with
      | some (body, after) =>
          match after.rest with
          | ')' :: rest => some (body, { after with rest })
          | _ => none
      | none => none

/-- Reads the parts of a group up to its end, which is not read. -/
def partsAt : Nat → Source → Branches → Option (Part × Source)
  | 0, _, _ => none
  | fuel + 1, source, branches =>
      let modes := source.modes
      match modes.skip source.rest with
      | [] => some (branches.close, { source with rest := [] })
      | ')' :: rest => some (branches.close, { source with rest := ')' :: rest })
      | '|' :: rest => partsAt fuel { source with rest } branches.next
      | '*' :: rest =>
          match repeatLast? source branches 0 none rest with
          | some (source, branches) => partsAt fuel source branches
          | none => none
      | '+' :: rest =>
          match repeatLast? source branches 1 none rest with
          | some (source, branches) => partsAt fuel source branches
          | none => none
      | '?' :: rest =>
          match repeatLast? source branches 0 (some 1) rest with
          | some (source, branches) => partsAt fuel source branches
          | none => none
      | '\x7b' :: rest =>
          match counts? modes rest with
          | some ((least, most), rest) =>
              match repeatLast? source branches least most (modes.skip rest) with
              | some (source, branches) => partsAt fuel source branches
              | none => none
          | none => none
      | '[' :: rest =>
          match bracket? modes fuel greatestDepth rest with
          | some (read, rest) =>
              partsAt fuel { source with rest } (branches.push (.item (one read.set) read.depth))
          | none => none
      | '\\' :: rest =>
          match escape? modes rest with
          | some (escape, rest) =>
              match escape.toPattern? modes with
              | some pattern =>
                  partsAt fuel { source with rest } (branches.push (.item pattern 0))
              | none => none
          | none => none
      | '(' :: rest =>
          match opening? modes rest with
          | none => none
          | some (.switch modes, rest) =>
              partsAt fuel { source with rest, modes } (branches.push .switch)
          | some (.plain modes, rest) =>
              match groupWith (fun inside => partsAt fuel inside {}) { source with rest, modes } with
              | some (body, after) =>
                  partsAt fuel { after with modes := source.modes, room := source.room }
                    (branches.push (.item body.toPattern (body.depth + 1)))
              | none => none
          | some (.capture, rest) =>
              let index := source.groups + 1
              match groupWith (fun inside => partsAt fuel inside {})
                  { source with rest, groups := index } with
              | some (body, after) =>
                  partsAt fuel { after with modes := source.modes, room := source.room }
                    (branches.push (.item (.group index body.toPattern) (body.depth + 1)))
              | none => none
          | some (.named name, rest) =>
              let index := source.groups + 1
              if source.names.contains name then none
              else
                match groupWith (fun inside => partsAt fuel inside {})
                    { source with rest, groups := index, names := name :: source.names } with
                | some (body, after) =>
                    partsAt fuel { after with modes := source.modes, room := source.room }
                      (branches.push (.item (.group index body.toPattern) (body.depth + 1)))
                | none => none
      | c :: rest =>
          match plainChar? modes c with
          | some pattern => partsAt fuel { source with rest } (branches.push (.item pattern 0))
          | none => none

/-- Reads a written pattern. It may not be nested too deep, nor need too much room. -/
def ofSource? (written : String) : Option Pattern :=
  let s := written.toList
  match partsAt (s.length + 1) ⟨s, {}, 0, [], greatestDepth⟩ {} with
  | some (.item pattern depth, source) =>
      if source.rest.isEmpty && depth ≤ greatestDepth && pattern.hasRoom then some pattern
      else none
  | _ => none

end Receipts.Pattern
