/-!
# Reading UTF-8

Bytes are read as characters from the left. A byte at which no complete
character starts is a stray. Of an encoding that breaks off, the bytes that
could still have been the start of a character count as one stray; any other
stray is a single byte. Replacing each stray by the replacement character gives
the lossy reading.
-/

namespace Receipts.Text

/-- A character, or `none` for a stray. -/
abbrev Symbol := Option Char

/-- Whether a byte continues an encoding. -/
def isContinuation (b : UInt8) : Bool := 0x80 ≤ b && b ≤ 0xBF

/-- The least and the greatest second byte after a leading byte of three or four. -/
def secondByteRange (lead : UInt8) : UInt8 × UInt8 :=
  if lead == 0xE0 then (0xA0, 0xBF)
  else if lead == 0xED then (0x80, 0x9F)
  else if lead == 0xF0 then (0x90, 0xBF)
  else if lead == 0xF4 then (0x80, 0x8F)
  else (0x80, 0xBF)

/-- Whether a byte may stand second after this leading byte. -/
def isSecond (lead b : UInt8) : Bool :=
  (secondByteRange lead).1 ≤ b && b ≤ (secondByteRange lead).2

/-- The six low bits of a byte. -/
def lowBits (b : UInt8) : Nat := b.toNat % 64

/-- Reads one symbol, with the number of further bytes it takes. -/
def readSymbol (lead : UInt8) (rest : List UInt8) : Symbol × Nat :=
  if lead < 0x80 then (some (Char.ofNat lead.toNat), 0)
  else if 0xC2 ≤ lead && lead ≤ 0xDF then
    match rest with
    | b :: _ =>
        if isContinuation b then (some (Char.ofNat (lead.toNat % 32 * 64 + lowBits b)), 1)
        else (none, 0)
    | [] => (none, 0)
  else if 0xE0 ≤ lead && lead ≤ 0xEF then
    match rest with
    | b :: rest =>
        if isSecond lead b then
          match rest with
          | c :: _ =>
              if isContinuation c then
                (some (Char.ofNat (lead.toNat % 16 * 4096 + lowBits b * 64 + lowBits c)), 2)
              else (none, 1)
          | [] => (none, 1)
        else (none, 0)
    | [] => (none, 0)
  else if 0xF0 ≤ lead && lead ≤ 0xF4 then
    match rest with
    | b :: rest =>
        if isSecond lead b then
          match rest with
          | c :: rest =>
              if isContinuation c then
                match rest with
                | d :: _ =>
                    if isContinuation d then
                      (some (Char.ofNat
                        (lead.toNat % 8 * 262144 + lowBits b * 4096 + lowBits c * 64 + lowBits d)),
                        3)
                    else (none, 2)
                | [] => (none, 2)
              else (none, 1)
          | [] => (none, 1)
        else (none, 0)
    | [] => (none, 0)
  else (none, 0)

/-- Adds the symbols of bytes, of which the first `skip` are already read, to those before them,
latest first. -/
def collectSymbols : List Symbol → Nat → List UInt8 → List Symbol
  | found, _, [] => found.reverse
  | found, skip + 1, _ :: rest => collectSymbols found skip rest
  | found, 0, b :: rest =>
      let (symbol, taken) := readSymbol b rest
      collectSymbols (symbol :: found) taken rest

/-- The symbols that bytes encode. -/
def symbols (bytes : List UInt8) : List Symbol :=
  collectSymbols [] 0 bytes

/-- The characters that bytes encode, if there is no stray among them. -/
def ofUtf8? (bytes : List UInt8) : Option String :=
  ((symbols bytes).mapM id).map String.ofList

/-- The characters that bytes encode, the replacement character for each stray. -/
def ofUtf8Lossy (bytes : List UInt8) : String :=
  String.ofList ((symbols bytes).map fun symbol => symbol.getD (Char.ofNat 0xFFFD))

/-- The bytes that encode a text. -/
def utf8 (s : String) : List UInt8 :=
  s.toList.flatMap String.utf8EncodeChar

end Receipts.Text
