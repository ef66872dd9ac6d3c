import Receipts.Pattern.Escape

/-!
# Sets in brackets

A set in brackets lists characters, ranges, escapes, named sets of ASCII
characters and further sets in brackets. `^` at its beginning stands for all
other characters, and the operators `&&`, `--` and `~~` join what stands to their
left with what stands to their right, from left to right.

Each set is read with the depth to which its notation is nested: brackets,
several items side by side, and operators are one level each.
-/

namespace Receipts.Pattern

/-- The depth to which the notation of patterns may be nested. -/
def greatestDepth : Nat := 250

/-- The named sets of ASCII characters. -/
def asciiClass? (name : List Char) : Option CharSet :=
  let upper := CharSet.range 'A' 'Z'
  let lower := CharSet.range 'a' 'z'
  let figure := CharSet.range '0' '9'
  let alpha := upper.union lower
  let alnum := alpha.union figure
  let graph := CharSet.range '!' '~'
  match String.ofList name with
  | "alnum" => some alnum
  | "alpha" => some alpha
  | "ascii" => some .ascii
  | "blank" => some (.ofList [' ', '\t'])
  | "cntrl" => some (CharSet.ascii.diff (.range ' ' '~'))
  | "digit" => some figure
  | "graph" => some graph
  | "lower" => some lower
  | "print" => some (.range ' ' '~')
  | "punct" => some (graph.diff alnum)
  | "space" => some ((CharSet.single ' ').union (.range '\t' '\r'))
  | "upper" => some upper
  | "word" => some (alnum.union (.single '_'))
  | "xdigit" => some ((figure.union (.range 'a' 'f')).union (.range 'A' 'F'))
  | _ => none

/-- A named set such as `[:alpha:]`: whether it is negated, and the set. -/
structure AsciiClass where
  negated : Bool
  set : CharSet

/-- Reads a named set after its opening bracket. -/
def asciiClassAt? : List Char → Option (AsciiClass × List Char)
  | ':' :: rest =>
      let negated := rest.head? == some '^'
      let rest := if negated then rest.drop 1 else rest
      match rest.dropWhile (· != ':') with
      | ':' :: ']' :: after =>
          (asciiClass? (rest.takeWhile (· != ':'))).map fun set => (⟨negated, set⟩, after)
      | _ => none
  | _ => none

/-- The operators between the parts of a set. -/
inductive SetOperator where
  | intersection
  | difference
  | symmetricDifference
  deriving DecidableEq, Repr

/-- Reads an operator between the parts of a set. -/
def setOperator? : List Char → Option (SetOperator × List Char)
  | '&' :: '&' :: rest => some (.intersection, rest)
  | '-' :: '-' :: rest => some (.difference, rest)
  | '~' :: '~' :: rest => some (.symmetricDifference, rest)
  | _ => none

/-- Joins two parts of a set. -/
def SetOperator.apply : SetOperator → CharSet → CharSet → CharSet
  | .intersection, a, b => a.inter b
  | .difference, a, b => a.diff b
  | .symmetricDifference, a, b => a.symmDiff b

/-- A set with the depth of its notation. -/
structure ReadSet where
  set : CharSet
  depth : Nat

/-- What is read of a set: what stands to the left of the last operator, and the items after it,
with their number and the depth of the deepest. -/
structure SetParts where
  left : Option (SetOperator × ReadSet) := none
  items : CharSet := .nothing
  count : Nat := 0
  depth : Nat := 0

/-- The parts with one item more. -/
def SetParts.add (parts : SetParts) (set : CharSet) (depth : Nat := 0) : SetParts :=
  { parts with
    items := parts.items.union set
    count := parts.count + 1
    depth := max parts.depth depth }

/-- The set read so far. An operator takes its sides in the letter case that the modes ask for. -/
def SetParts.close (modes : Modes) (parts : SetParts) : ReadSet :=
  let depth := if 2 ≤ parts.count then parts.depth + 1 else parts.depth
  match parts.left with
  | none => ⟨parts.items, depth⟩
  | some (operator, left) =>
      ⟨operator.apply (modes.fold left.set) (modes.fold parts.items), max left.depth depth + 1⟩

/-- A member of a set: a character, or the characters of another set. -/
inductive Member where
  | char (c : Char)
  | set (set : CharSet)

/-- The characters that a member adds to a set. -/
def Member.toSet : Member → CharSet
  | .char c => .single c
  | .set chars => chars

/-- Reads a member of a set. Under ASCII it has to be one of the ASCII characters. -/
def member? (modes : Modes) (s : List Char) : Option (Member × List Char) :=
  let char := fun (c : Char) (rest : List Char) =>
    if modes.ascii && 0x80 ≤ c.toNat then none else some (Member.char c, rest)
  match s with
  | [] => none
  | '\\' :: rest =>
      match escape? modes rest with
      | some (.char c, rest) => char c rest
      | some (.byte c, rest) => char c rest
      | some (.set set, rest) => some (.set set, rest)
      | _ => none
  | c :: rest => char c rest

/-- Reads a member of a set, or a range of characters. -/
def memberOrRange? (modes : Modes) (s : List Char) : Option (CharSet × List Char) := do
  let (first, rest) ← member? modes s
  match modes.skip rest with
  | '-' :: after =>
      if modes.peek? after == some ']' || modes.peek? after == some '-' then
        some (first.toSet, '-' :: after)
      else
        match first, ← member? modes (modes.skip after) with
        | .char a, (.char b, rest) => if a ≤ b then some (.range a b, rest) else none
        | _, _ => none
  | rest => some (first.toSet, rest)

/-- Reads hyphens at the beginning of a set, which stand for themselves. -/
def leadingHyphens (modes : Modes) : Nat → SetParts → List Char → SetParts × List Char
  | 0, parts, s => (parts, s)
  | fuel + 1, parts, s =>
      match s with
      | '-' :: rest => leadingHyphens modes fuel (parts.add (.single '-')) (modes.skip rest)
      | s => (parts, s)

mutual

/-- Reads a set after its opening bracket. A closing bracket that comes first stands for itself. -/
def bracket? (modes : Modes) : Nat → Nat → List Char → Option (ReadSet × List Char)
  | 0, _, _ => none
  | _, 0, _ => none
  | fuel + 1, room + 1, s =>
      let s := modes.skip s
      let negated := s.head? == some '^'
      let s := if negated then modes.skip (s.drop 1) else s
      let (parts, s) := leadingHyphens modes s.length {} s
      let (parts, s) :=
        match s with
        | ']' :: rest =>
            if parts.count = 0 then (parts.add (.single ']'), modes.skip rest) else (parts, s)
        | s => (parts, s)
      match bracketItems? modes fuel room parts s with
      | some (read, rest) =>
          (modes.signed? negated read.set).map fun set => (⟨set, read.depth + 1⟩, rest)
      | none => none

/-- Reads the items of a set up to its closing bracket. -/
def bracketItems? (modes : Modes) :
    Nat → Nat → SetParts → List Char → Option (ReadSet × List Char)
  | 0, _, _, _ => none
  | fuel + 1, room, parts, s =>
      match modes.skip s with
      | [] => none
      | ']' :: rest => some (parts.close modes, rest)
      | '[' :: rest =>
          match asciiClassAt? rest with
          | some (found, rest) =>
              match modes.signed? found.negated found.set with
              | some set => bracketItems? modes fuel room (parts.add set) rest
              | none => none
          | none =>
              match bracket? modes fuel room rest with
              | some (inner, rest) =>
                  bracketItems? modes fuel room (parts.add inner.set inner.depth) rest
              | none => none
      | s =>
          match setOperator? s with
          | some (operator, rest) =>
              bracketItems? modes fuel room { left := some (operator, parts.close modes) } rest
          | none =>
              match memberOrRange? modes s with
              | some (set, rest) => bracketItems? modes fuel room (parts.add set) rest
              | none => none

end

end Receipts.Pattern
