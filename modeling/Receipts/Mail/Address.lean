import Receipts.DomainName
import Receipts.Text.Word

/-!
# Addresses

An address is a user and a domain. Letters and digits of any script may stand in
both. A domain may be given in any spelling in which it can be looked up.
-/

namespace Receipts.Mail.Address

/-- A sign that may stand in an atom like letters and digits. -/
def isAtomSign (c : Char) : Bool :=
  ['!', '#', '$', '%', '&', '\x27', '*', '+', '-', '/', '=', '?', '^', '_', '\x60', '\x7b', '|',
    '\x7d', '~'].contains c

/-- A visible ASCII character other than the quote and the backslash. -/
def isQuotableSign (c : Char) : Bool :=
  let n := c.toNat
  n == 33 || (35 ≤ n && n ≤ 91) || (93 ≤ n && n ≤ 126)

/-- A blank in a mailbox. Line ends are none. -/
def isBlank (c : Char) : Bool :=
  c == ' ' || c == '\t'

/-- The number of bytes of a text. -/
def byteCount (s : List Char) : Nat :=
  s.foldl (fun n c => n + c.utf8Size) 0

/-- A code point of two bytes that are those of an encoded character of two bytes. -/
def isPairOfBytes (c : Char) : Bool :=
  let n := c.toNat
  n < 0x10000 && 0xC2 ≤ n / 256 && n / 256 ≤ 0xDF && 0x80 ≤ n % 256 && n % 256 ≤ 0xBF

/-- A character that an address can have without quotes. -/
def isAddressChar (c : Char) : Bool :=
  Text.isAlphanumeric c || isAtomSign c || isPairOfBytes c

/-- Atoms with points between them and nothing else. -/
def isDotted (s : List Char) : Bool :=
  (List.splitOn '.' s).all fun atom => !atom.isEmpty && atom.all isAddressChar

/-- A text in which quotes and backslashes have a backslash before them. -/
def isEscaped : List Char → Bool
  | [] => true
  | '\\' :: c :: s => 0x21 ≤ c.toNat && c.toNat ≤ 0x7E && isEscaped s
  | c :: s => (isBlank c || isQuotableSign c || isPairOfBytes c) && isEscaped s

/-- Whether a user is short enough and well formed. One that starts and ends with a quote is a text
in quotes. -/
def isUser (s : List Char) : Bool :=
  byteCount s ≤ 64 &&
    if s.head? == some '"' && s.getLast? == some '"' then
      2 < s.length && isEscaped (s.drop 1).dropLast
    else isDotted s

/-- Whether a domain and each of its labels is short enough and well formed as it stands. -/
def isPlainDomain (s : List Char) : Bool :=
  byteCount s ≤ 254 &&
    (List.splitOn '.' s).all fun label =>
      label.head?.any Text.isAlphanumeric && label.getLast?.any Text.isAlphanumeric &&
        byteCount label ≤ 63 && label.all isAddressChar

/-- Whether a domain is well formed as it stands or as it is looked up. -/
def isDomain (s : List Char) : Bool :=
  isPlainDomain s || (DomainName.lookupForm? (fun _ => false) s).any isPlainDomain

end Receipts.Mail.Address
