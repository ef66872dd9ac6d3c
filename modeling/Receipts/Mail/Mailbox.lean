import Receipts.Mail.Address
import Receipts.Mail.Error
import Receipts.Mail.HeaderText

/-!
# Mailboxes

A mailbox is an address, or a name followed by an address in angle brackets. A
name is made of words; a word is an atom or a quoted text, to which the blanks
before it belong as one space. Points may stand between the words of a name.
Any character beyond ASCII may stand in an atom here; whether the address can be
used is a second question.

The first alternative that fits the front of a text is taken and not revised
later.
-/

namespace Receipts.Mail

/-- An address with the name shown beside it, if there is one. -/
structure Mailbox where
  name : Option (List Char)
  user : List Char
  domain : List Char
  deriving DecidableEq, Repr

namespace Mailbox

open Address (isAtomSign isBlank isQuotableSign isUser isDomain)

/-- A character of an atom. -/
def isAtomChar (c : Char) : Bool :=
  c.isAlphanum || 0x80 ≤ c.toNat || isAtomSign c

/-- A control character that is neither blank nor a line end. -/
def isPlainControl (c : Char) : Bool :=
  let n := c.toNat
  (1 ≤ n && n ≤ 8) || n == 11 || n == 12 || (14 ≤ n && n ≤ 31) || n == 127

/-- A character that may stand in quotes as it is. -/
def isQuotable (c : Char) : Bool :=
  isQuotableSign c || isPlainControl c || 0x80 ≤ c.toNat

/-- A character that may follow a backslash in quotes. -/
def isEscapable (c : Char) : Bool :=
  let n := c.toNat
  1 ≤ n && n ≤ 127 && n != 10 && n != 13

/-- Blanks, which count as one space, and the rest. -/
def folding (s : List Char) : List Char × List Char :=
  (if s.head?.any isBlank then [' '] else [], s.dropWhile isBlank)

/-- A word of atom characters with the space before it, and the rest. -/
def atom? (s : List Char) : Option (List Char × List Char) :=
  let (space, rest) := folding s
  if (rest.takeWhile isAtomChar).isEmpty then none
  else some (space ++ rest.takeWhile isAtomChar, rest.dropWhile isAtomChar)

/-- One character inside quotes, and the rest. -/
def quotedChar? : List Char → Option (Char × List Char)
  | '\\' :: c :: rest => if isEscapable c then some (c, rest) else none
  | c :: rest => if isQuotable c then some (c, rest) else none
  | [] => none

/-- The inside of quotes after what was found, latest first, with at most `fuel` characters more,
and the rest. -/
def quotedChars : Nat → List Char → List Char → List Char × List Char
  | 0, found, s => (found.reverse, s)
  | fuel + 1, found, s =>
      let (space, rest) := folding s
      match quotedChar? rest with
      | some (c, rest) => quotedChars fuel (c :: (space ++ found)) rest
      | none => (found.reverse, s)

/-- A text in quotes with the space before it, and the rest. Blanks before the closing quote do not
belong to it. -/
def quoted? (s : List Char) : Option (List Char × List Char) :=
  let (space, rest) := folding s
  match rest with
  | '"' :: rest =>
      let (inside, rest) := quotedChars rest.length [] rest
      match rest.dropWhile isBlank with
      | '"' :: rest => some (space ++ inside, rest)
      | _ => none
  | _ => none

/-- A word of a name, and the rest. -/
def word? (s : List Char) : Option (List Char × List Char) :=
  (quoted? s).or (atom? s)

/-- The words and points after the first word of a name, with at most `fuel` more. -/
def laterWords : Nat → List Char → List Char → List Char × List Char
  | 0, found, s => (found, s)
  | fuel + 1, found, s =>
      match word? s with
      | some (word, rest) => laterWords fuel (found ++ word) rest
      | none =>
          match s with
          | '.' :: rest => laterWords fuel (found ++ ['.']) rest
          | _ => (found, s)

/-- A name, and the rest. -/
def name? (s : List Char) : Option (List Char × List Char) :=
  (word? s).map fun (word, rest) => laterWords rest.length word rest

/-- Further atoms, each after a point. -/
def pointedAtoms : Nat → List Char → List Char → List Char × List Char
  | 0, found, s => (found, s)
  | fuel + 1, found, s =>
      match s with
      | '.' :: rest =>
          if (rest.takeWhile isAtomChar).isEmpty then (found, s)
          else
            pointedAtoms fuel (found ++ '.' :: rest.takeWhile isAtomChar)
              (rest.dropWhile isAtomChar)
      | _ => (found, s)

/-- Atoms with points between them, and the rest. -/
def dotted? (s : List Char) : Option (List Char × List Char) :=
  (atom? s).map fun (atom, rest) => pointedAtoms rest.length atom rest

/-- The user and domain of an address, and the rest. -/
def parts? (s : List Char) : Option ((List Char × List Char) × List Char) :=
  match (dotted? s).or (quoted? s) with
  | some (user, '@' :: rest) => (dotted? rest).map fun (domain, rest) => ((user, domain), rest)
  | _ => none

/-- An address in angle brackets with blanks around them, and the rest. -/
def bracketed? (s : List Char) : Option ((List Char × List Char) × List Char) :=
  match s.dropWhile isBlank with
  | '<' :: inside =>
      match parts? inside with
      | some (parts, '>' :: rest) => some (parts, rest)
      | _ => none
  | _ => none

/-- The parts of a mailbox, without a look at what they hold. -/
def read? (s : List Char) : Option Mailbox :=
  let s := s.dropWhile isBlank
  let (name, rest) :=
    match name? s with
    | some (name, rest) => (some name, rest)
    | none => (none, s)
  let found :=
    match bracketed? rest with
    | some ((user, domain), rest) => some (Mailbox.mk name user domain, rest)
    | none => (parts? s).map fun ((user, domain), rest) => (Mailbox.mk none user domain, rest)
  (found.filter fun (_, rest) => rest.all isBlank).map (·.1)

/-- Reads a mailbox. -/
def ofText (s : String) : Except AddressDefect Mailbox :=
  match read? s.toList with
  | none => .error .unreadable
  | some mailbox =>
      if !isUser mailbox.user then .error .user
      else if !isDomain mailbox.domain then .error .domain
      else .ok mailbox

/-- The address of a mailbox. -/
def address (mailbox : Mailbox) : List Char :=
  mailbox.user ++ '@' :: mailbox.domain

/-- A character of names that need no quotes. -/
def isPlainNameChar (c : Char) : Bool :=
  c.isAlphanum || c == '.' || c == '-' || c == '_'

/-- A character of names that need no encoding. -/
def isShownNameChar (c : Char) : Bool :=
  isPlainNameChar c || c == ' ' || c == '"' || c == '\\'

/-- A name as a header shows it: as it is, in quotes, or as an encoded word. -/
def shownName (name : List Char) : List Char :=
  if name.all isPlainNameChar then name
  else if name.all isShownNameChar then
    '"' :: (name.flatMap fun c => if c == '"' || c == '\\' then ['\\', c] else [c]) ++ ['"']
  else encodedWord name

/-- A mailbox as a header shows it. -/
def shown (mailbox : Mailbox) : List Char :=
  match mailbox.name with
  | none => mailbox.address
  | some name => shownName name ++ ' ' :: '<' :: (mailbox.address ++ ['>'])

end Mailbox

end Receipts.Mail
