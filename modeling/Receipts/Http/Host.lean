import Receipts.DomainName
import Receipts.Http.Percent

/-!
# Hosts

The host of a web address is a domain name, an address of four numbers, or an
address of eight groups in brackets. A name whose last part is a number has to be
an address. The host of any other URL is an address in brackets or a plain text.
-/

namespace Receipts.Http.Host

/-- The number that digits of a base spell, nothing if one is no such digit. -/
def number? (base : Nat) (digits : List Char) : Option Nat :=
  digits.foldlM (fun n c =>
    ((Text.hexValue? c).filter (· < base)).map (n * base + ·)) 0

/-- A part of an address of four numbers: decimal, octal after a zero, or hexadecimal. -/
def part? : List Char → Option Nat
  | [] => none
  | '0' :: x :: digits =>
      if x == 'x' || x == 'X' then number? 16 digits else number? 8 (x :: digits)
  | digits => number? 10 digits

/-- The parts of a name, the empty one after a last point aside. -/
def parts (name : List Char) : List (List Char) :=
  let all := List.splitOn '.' name
  if all.length > 1 && all.getLast? == some [] then all.dropLast else all

/-- Whether the last part of a name is a number. -/
def endsInNumber (name : List Char) : Bool :=
  match (parts name).getLast? with
  | none => false
  | some [] => false
  | some last =>
      last.all Char.isDigit ||
        (match last with
        | '0' :: x :: _ => (x == 'x' || x == 'X') && (part? last).isSome
        | _ => false)

/-- The value of an address of up to four numbers; the last one fills what the others leave. -/
def fourNumbers? (name : List Char) : Option Nat := do
  let numbers ← (parts name).mapM part?
  let last ← numbers.getLast?
  let others := numbers.dropLast
  if 4 < numbers.length || others.any (255 < ·) || Nat.pow 256 (5 - numbers.length) ≤ last then none
  else some (others.foldl (fun n d => n * 256 + d) 0 * Nat.pow 256 (5 - numbers.length) + last)

/-- The text of an address of four numbers. -/
def fourNumbersText (n : Nat) : List Char :=
  ['.'].intercalate
    ([n / 16777216 % 256, n / 65536 % 256, n / 256 % 256, n % 256].map fun d =>
      (toString d).toList)

/-- A group of an address in brackets. -/
def group? (digits : List Char) : Option Nat :=
  if digits.isEmpty || 4 < digits.length then none else number? 16 digits

/-- Groups with colons between them; the last one may be an address of four plain numbers. -/
def groups? (s : List Char) : Option (List Nat) :=
  if s.isEmpty then some []
  else
    let all := List.splitOn ':' s
    match all.getLast? with
    | none => none
    | some last =>
        if last.contains '.' then do
          let numbers ← (List.splitOn '.' last).mapM fun digits =>
            if digits.isEmpty || (1 < digits.length && digits.head? == some '0') then none
            else number? 10 digits
          let groups ← all.dropLast.mapM group?
          match numbers with
          | [a, b, c, d] =>
              if [a, b, c, d].any (255 < ·) then none
              else some (groups ++ [a * 256 + b, c * 256 + d])
          | _ => none
        else all.mapM group?

/-- The text before and after the first pair of colons. -/
def atDoubleColon : List Char → List Char → Option (List Char × List Char)
  | before, ':' :: ':' :: after => some (before.reverse, after)
  | before, c :: s => atDoubleColon (c :: before) s
  | _, [] => none

/-- The eight groups of an address in brackets. -/
def eightGroups? (s : List Char) : Option (List Nat) :=
  match atDoubleColon [] s with
  | none => do
      let groups ← groups? s
      if groups.length = 8 then some groups else none
  | some (before, after) => do
      if before.contains '.' then none
      else
        let left ← groups? before
        let right ← groups? after
        if 8 ≤ left.length + right.length then none
        else some (left ++ List.replicate (8 - left.length - right.length) 0 ++ right)

/-- Where the longest run of zeros among groups starts, and how long it is; the first of equals. -/
def longestZeros (groups : List Nat) : Nat × Nat :=
  (List.range groups.length).foldl (fun best start =>
    let length := ((groups.drop start).takeWhile (· == 0)).length
    if best.2 < length then (start, length) else best) (0, 0)

/-- Groups with colons between them. -/
def groupsText (groups : List Nat) : List Char :=
  [':'].intercalate (groups.map (Nat.toDigits 16))

/-- The text of an address in brackets; its longest run of zeros is left out. -/
def eightGroupsText (groups : List Nat) : List Char :=
  let (start, length) := longestZeros groups
  let body :=
    if length < 2 then groupsText groups
    else
      groupsText (groups.take start) ++ [':', ':'] ++ groupsText (groups.drop (start + length))
  '[' :: (body ++ [']'])

/-- Characters that no plain text holds. -/
def isDelimiter (c : Char) : Bool :=
  ['\x00', '\t', '\n', '\x0d', ' ', '#', '/', ':', '<', '>', '?', '@', '[', '\\', ']', '^',
    '|'].contains c

/-- Characters that no domain name holds. -/
def isForbidden (c : Char) : Bool :=
  c.toNat ≤ 0x20 || c.toNat == 0x7F || c == '%' || isDelimiter c

/-- Reads an address in brackets. -/
def inBrackets? (s : List Char) : Option (List Char) :=
  if 2 ≤ s.length && s.getLast? == some ']' then
    (eightGroups? (s.drop 1).dropLast).map eightGroupsText
  else none

/-- Reads the host of a web address. -/
def ofWritten? (s : List Char) : Option (List Char) :=
  if s.head? == some '[' then inBrackets? s
  else do
    let decoded ← Text.ofUtf8? (percentDecode s)
    let name ← DomainName.lookupForm? isForbidden decoded.toList
    if name.isEmpty then none
    else if endsInNumber name then (fourNumbers? name).map fourNumbersText
    else some name

/-- Reads the host of any other URL. -/
def ofPlain? (s : List Char) : Option (List Char) :=
  if s.head? == some '[' then inBrackets? s
  else if s.any isDelimiter then none
  else some (percentEncode [] s)

end Receipts.Http.Host
