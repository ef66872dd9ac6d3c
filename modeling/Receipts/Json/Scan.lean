import Receipts.Json.Fault
import Receipts.Text.Hex
import Receipts.Text.Utf8

/-!
# The words of a document

The smallest parts of a document: blanks, fixed words, texts with their escapes
and numerals. Each is read at the front of the input and returns the rest. A
text may hold stray bytes; that is found out at its closing quote, after every
other fault in it.
-/

namespace Receipts.Json

/-- What is left of a document. -/
abbrev Input := List Text.Symbol

/-- A document given as a text. -/
def Input.ofString (s : String) : Input := s.toList.map some

/-- A document given as bytes. -/
def Input.ofBytes (bytes : List UInt8) : Input := Text.symbols bytes

namespace Scan

/-- A blank between the parts of a document. -/
def isSpace (x : Text.Symbol) : Bool :=
  x == some ' ' || x == some '\n' || x == some '\t' || x == some '\r'

/-- The input after blanks. -/
def skipSpace (s : Input) : Input := s.dropWhile isSpace

/-- The input after the rest of a fixed word. -/
def word : List Char → Input → Except Cause Input
  | [], s => .ok s
  | _ :: _, [] => .error .endInValue
  | c :: cs, x :: s => if x == some c then word cs s else .error .expectedWord

/-- The value of a hexadecimal digit. -/
def hexValue? (x : Text.Symbol) : Option Nat :=
  x.bind Text.hexValue?

/-- The number of bytes of some symbols. -/
def byteCount (s : Input) : Nat :=
  s.foldl (fun n x => n + (x.map Char.utf8Size).getD 1) 0

/-- The number that four hexadecimal digits spell. -/
def fourDigits : Input → Except Cause Nat
  | a :: b :: c :: d :: _ =>
      match hexValue? a, hexValue? b, hexValue? c, hexValue? d with
      | some a, some b, some c, some d => .ok (((a * 16 + b) * 16 + c) * 16 + d)
      | _, _, _, _ => .error .badEscape
  | s => if 4 ≤ byteCount s then .error .badEscape else .error .endInText

/-- The first half of a pair that spells a character beyond 16 bits. -/
def isLeading (n : Nat) : Bool := 0xD800 ≤ n && n ≤ 0xDBFF

/-- The second half of a pair that spells a character beyond 16 bits. -/
def isTrailing (n : Nat) : Bool := 0xDC00 ≤ n && n ≤ 0xDFFF

/-- The character that follows an escaping backslash and `u`, with the number of symbols read. -/
def numbered (s : Input) : Except Cause (Char × Nat) := do
  let n ← fourDigits s
  if isTrailing n then .error .loneSurrogate
  else if !isLeading n then .ok (Char.ofNat n, 4)
  else
    match s.drop 4 with
    | [] => .error .endInText
    | some '\\' :: rest =>
        match rest with
        | [] => .error .endInText
        | some 'u' :: rest => do
            let m ← fourDigits rest
            if isTrailing m then
              .ok (Char.ofNat (0x10000 + (n - 0xD800) * 0x400 + (m - 0xDC00)), 10)
            else .error .loneSurrogate
        | _ => .error .endOfEscape
    | _ => .error .endOfEscape

/-- The character that an escape after its backslash stands for, with the number of symbols read.
An unchecked escape only has to be well formed. -/
def escape (checked : Bool) : Input → Except Cause (Char × Nat)
  | [] => .error .endInText
  | some '"' :: _ => .ok ('"', 1)
  | some '\\' :: _ => .ok ('\\', 1)
  | some '/' :: _ => .ok ('/', 1)
  | some 'b' :: _ => .ok (Char.ofNat 8, 1)
  | some 'f' :: _ => .ok (Char.ofNat 12, 1)
  | some 'n' :: _ => .ok ('\n', 1)
  | some 'r' :: _ => .ok ('\r', 1)
  | some 't' :: _ => .ok ('\t', 1)
  | some 'u' :: s =>
      if checked then (numbered s).map fun (c, taken) => (c, taken + 1)
      else (fourDigits s).map fun _ => (' ', 5)
  | _ => .error .badEscape

/-- Reads a text after its opening quote. `read` holds the characters so far, latest first, `stray`
tells whether a stray byte was among them, and `skip` symbols belong to the last escape. -/
def textFrom (checked : Bool) : List Char → Bool → Nat → Input → Except Cause (List Char × Input)
  | _, _, _, [] => .error .endInText
  | read, stray, skip + 1, _ :: s => textFrom checked read stray skip s
  | read, _, 0, none :: s => textFrom checked read true 0 s
  | read, stray, 0, some c :: s =>
      if c == '"' then
        if checked && stray then .error .badCodePoint else .ok (read.reverse, s)
      else if c == '\\' then
        match escape checked s with
        | .ok (d, taken) => textFrom checked (d :: read) stray taken s
        | .error cause => .error cause
      else if c.toNat < 0x20 then .error .controlCharacter
      else textFrom checked (c :: read) stray 0 s

/-- Reads a text after its opening quote. -/
def text (s : Input) : Except Cause (String × Input) :=
  (textFrom true [] false 0 s).map fun (read, rest) => (String.ofList read, rest)

/-- Passes over a text after its opening quote. -/
def skipText (s : Input) : Except Cause Input :=
  (textFrom false [] false 0 s).map (·.2)

/-- A decimal digit. -/
def isDigit (x : Text.Symbol) : Bool := x.any Char.isDigit

/-- The digits at the front of the input. -/
def digits (s : Input) : List Nat :=
  (s.takeWhile isDigit).map fun x => (x.getD '0').toNat - '0'.toNat

/-- The input after the digits at its front. -/
def afterDigits (s : Input) : Input := s.dropWhile isDigit

/-- Digits of which there has to be one; `atEnd` is the cause when the document ends instead. -/
def someDigits (atEnd : Cause) (s : Input) : Except Cause (List Nat × Input) :=
  match s with
  | [] => .error atEnd
  | x :: _ => if isDigit x then .ok (digits s, afterDigits s) else .error .badNumber

/-- The exponent of a numeral, if there is one. -/
def exponentPart (atEnd : Cause) (s : Input) :
    Except Cause (Option (Bool × List Nat) × Input) :=
  match s with
  | some c :: rest =>
      if c == 'e' || c == 'E' then
        let (negative, rest) :=
          match rest with
          | some '+' :: rest => (false, rest)
          | some '-' :: rest => (true, rest)
          | rest => (false, rest)
        (someDigits atEnd rest).map fun (ds, rest) => (some (negative, ds), rest)
      else .ok (none, s)
  | s => .ok (none, s)

/-- The fraction of a numeral, if there is one. -/
def fractionPart (atEnd : Cause) (s : Input) : Except Cause (Option (List Nat) × Input) :=
  match s with
  | some '.' :: rest => (someDigits atEnd rest).map fun (ds, rest) => (some ds, rest)
  | s => .ok (none, s)

/-- Reads a numeral after its sign. Digits have no superfluous zero in front. -/
def numeral (atEnd : Cause) (negative : Bool) (s : Input) : Except Cause (Numeral × Input) := do
  let (whole, rest) ← someDigits atEnd s
  if whole.head? == some 0 && 1 < whole.length then .error .badNumber
  else
    let (fraction, rest) ← fractionPart atEnd rest
    let (exponent, rest) ← exponentPart atEnd rest
    .ok (⟨negative, whole, fraction, exponent⟩, rest)

/-- Reads a number after its sign. -/
def number (negative : Bool) (s : Input) : Except Cause (Number × Input) := do
  let (numeral, rest) ← numeral .endInValue negative s
  match numeral.number? with
  | some n => .ok (n, rest)
  | none => .error .numberOutOfRange

/-- Passes over a number after its sign. -/
def skipNumber (s : Input) : Except Cause Input :=
  (numeral .badNumber false s).map (·.2)

end Scan

end Receipts.Json
