import Receipts.Pattern.Basic
import Receipts.Pattern.Modes
import Receipts.Text.Property

/-!
# Escapes in written patterns

A backslash begins an escape. It makes a punctuation character stand for itself,
and with a letter it stands for a character, for a set, for the characters with a
property, or for a condition on a place.
-/

namespace Receipts.Pattern

/-- What an escape stands for. A byte escape gives the number of a character in two digits. -/
inductive Escape where
  | char (c : Char)
  | byte (c : Char)
  | set (set : CharSet)
  | condition (condition : Assertion)
  deriving DecidableEq, Repr

/-- The set that an escaped letter names. -/
def namedSet? (modes : Modes) (letter : Char) : Option CharSet :=
  let limit := fun (set : CharSet) => if modes.ascii then set.inter .ascii else set
  match letter with
  | 'd' => some (limit .digit)
  | 'D' => modes.admit? (limit .digit).compl
  | 's' => some (limit .blank)
  | 'S' => modes.admit? (limit .blank).compl
  | 'w' => some (limit .word)
  | 'W' => modes.admit? (limit .word).compl
  | _ => none

/-- The text before the first occurrence of a mark, and the text after it. -/
def cutAt? (mark : List Char) : List Char → Option (List Char × List Char)
  | [] => none
  | c :: rest =>
      if mark.isPrefixOf (c :: rest) then some ([], (c :: rest).drop mark.length)
      else (cutAt? mark rest).map fun (before, after) => (c :: before, after)

/-- The set of a property, given by its name or by the name of its value too. -/
def propertySet? (name : List Char) : Option CharSet :=
  match ((cutAt? ['!', '='] name).or (cutAt? [':'] name)).or (cutAt? ['='] name) with
  | some (property, value) => Text.propertyValue? property value
  | none => Text.property? name

/-- Reads the name of a property: in braces, or a single character. -/
def propertyName? (modes : Modes) (s : List Char) : Option (List Char × List Char) :=
  match modes.skip s with
  | '\x7b' :: rest => modes.braced? false rest
  | '\\' :: _ => none
  | c :: rest => some ([c], rest)
  | [] => none

/-- The character that an escaped letter stands for. -/
def namedChar? : Char → Option Char
  | 'a' => some (Char.ofNat 7)
  | 'f' => some (Char.ofNat 12)
  | 't' => some '\t'
  | 'n' => some '\n'
  | 'r' => some '\r'
  | 'v' => some (Char.ofNat 11)
  | _ => none

/-- Whether a backslash makes a character stand for itself. -/
def isEscapable (c : Char) : Bool :=
  c.toNat < 0x80 && !c.isAlphanum && c != '<' && c != '>'

/-- The character with a number. -/
def charOfNumber? (n : Nat) : Option Char :=
  if n < 0xD800 || (0xE000 ≤ n && n < 0x110000) then some (Char.ofNat n) else none

/-- Reads a number of digits. Verbose patterns may contain blanks after each. -/
def digits? (modes : Modes) : Nat → List Char → Option (List Char × List Char)
  | 0, s => some ([], s)
  | _ + 1, [] => none
  | n + 1, c :: rest =>
      (digits? modes n (modes.skip rest)).map fun (digits, after) => (c :: digits, after)

/-- Reads the number of a character, in braces or with a fixed number of digits. -/
def numbered? (modes : Modes) (width : Nat) (s : List Char) : Option (Escape × List Char) := do
  let (written, after, inBraces) ←
    match modes.skip s with
    | '\x7b' :: rest => (modes.braced? false rest).map fun (a, b) => (a, b, true)
    | rest => (digits? modes width rest).map fun (a, b) => (a, b, false)
  let c ← if written.isEmpty then none else (Text.hexNumber? written).bind charOfNumber?
  return (if width = 2 && !inBraces then .byte c else .char c, after)

/-- The condition that a name in braces after `\b` stands for. -/
def namedEdge? (name : List Char) : Option WordEdge :=
  match String.ofList name with
  | "start" => some .start
  | "end" => some .finish
  | "start-half" => some .noneBefore
  | "end-half" => some .noneAfter
  | _ => none

/-- Reads what follows `\b`: a name in braces, or nothing that belongs to it. Braces that do not
begin with a letter or hyphen hold the counts of a repetition. -/
def edge? (modes : Modes) (s : List Char) : Option (WordEdge × List Char) :=
  match s with
  | '\x7b' :: inside =>
      match modes.skip inside with
      | [] => none
      | c :: _ =>
          if c.isAlpha || c == '-' then do
            let (name, after) ← modes.braced? false inside
            return (← namedEdge? name, after)
          else some (.boundary, s)
  | s => some (.boundary, s)

/-- Reads an escape after its backslash. -/
def escape? (modes : Modes) (s : List Char) : Option (Escape × List Char) :=
  let word := fun (edge : WordEdge) => Escape.condition (.word edge modes.ascii)
  match s with
  | [] => none
  | 'x' :: rest => numbered? modes 2 rest
  | 'u' :: rest => numbered? modes 4 rest
  | 'U' :: rest => numbered? modes 8 rest
  | 'A' :: rest => some (.condition .textStart, rest)
  | 'z' :: rest => some (.condition .textEnd, rest)
  | 'b' :: rest => (edge? modes rest).map fun (edge, rest) => (word edge, rest)
  | 'B' :: rest => some (word .noBoundary, rest)
  | '<' :: rest => some (word .start, rest)
  | '>' :: rest => some (word .finish, rest)
  | c :: rest =>
      if c == 'p' || c == 'P' then do
        let (name, rest) ← propertyName? modes rest
        let set ← if modes.ascii then none else propertySet? name
        return (.set (← modes.signed? (c == 'P') set), rest)
      else
        match namedSet? modes c, namedChar? c with
        | some set, _ => some (.set set, rest)
        | none, some d => some (.char d, rest)
        | none, none => if isEscapable c then some (.char c, rest) else none

end Receipts.Pattern
