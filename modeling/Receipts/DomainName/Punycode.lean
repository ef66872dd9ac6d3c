/-!
# Punycode

A label with characters beyond ASCII is written in ASCII: first its ASCII
characters, and after a hyphen the others as numbers. In the order of code
points, each number tells how many places and code points are skipped before the
next character. The digits are the letters, which stand for 0 to 25, and the
figures, which stand for 26 to 35; how many digits a number takes depends on a
bias that follows the numbers before it.
-/

namespace Receipts.DomainName.Punycode

/-- A digit. -/
def digit (n : Nat) : Char :=
  if n < 26 then Char.ofNat ('a'.toNat + n) else Char.ofNat ('0'.toNat + (n - 26))

/-- The value of a digit. -/
def value? (c : Char) : Option Nat :=
  if 'a' ≤ c && c ≤ 'z' then some (c.toNat - 'a'.toNat)
  else if c.isDigit then some (c.toNat - '0'.toNat + 26)
  else none

/-- A digit below the threshold of its place ends a number. -/
def threshold (bias place : Nat) : Nat :=
  if place ≤ bias then 1 else min 26 (place - bias)

theorem threshold_pos (bias place : Nat) : 0 < threshold bias place := by
  unfold threshold; split <;> omega

/-- The bias that a number of this size leads to. -/
def shrink (n bias : Nat) : Nat :=
  if 455 < n then shrink (n / 35) (bias + 36) else bias + 36 * n / (n + 38)
  termination_by n
  decreasing_by exact Nat.div_lt_self (by omega) (by omega)

/-- The bias after a number, when a count of characters is done. -/
def adapt (number count : Nat) (first : Bool) : Nat :=
  let n := if first then number / 700 else number / 2
  shrink (n + n / count) 0

/-- The digits of a number. -/
def digits (bias place n : Nat) : List Char :=
  let least := threshold bias place
  if n < least then [digit n]
  else
    digit (least + (n - least) % (36 - least))
      :: digits bias (place + 36) ((n - least) / (36 - least))
  termination_by n
  decreasing_by
    have := threshold_pos bias place
    calc (n - threshold bias place) / (36 - threshold bias place)
        ≤ n - threshold bias place := Nat.div_le_self _ _
      _ < n := by omega

/-- What is kept while a label is written: the digits so far, what is skipped, the bias, and how
many characters are done. -/
structure Writing where
  written : List Char
  skipped : Nat
  bias : Nat
  done : Nat

/-- Writes every place at which the character `m` stands in a label. -/
def Writing.places (label : List Char) (plain m : Nat) (writing : Writing) : Writing :=
  label.foldl (fun writing c =>
    if c.toNat < m then { writing with skipped := writing.skipped + 1 }
    else if c.toNat = m then
      { written := writing.written ++ digits writing.bias 36 writing.skipped
        skipped := 0
        bias := adapt writing.skipped (writing.done + 1) (writing.done == plain)
        done := writing.done + 1 }
    else writing) writing

/-- Writes the characters from the code point `n` on, whose code points are given in order. -/
def Writing.others (label : List Char) (plain : Nat) : Nat → List Nat → Writing → Writing
  | _, [], writing => writing
  | n, m :: codes, writing =>
      let writing := { writing with skipped := writing.skipped + (m - n) * (writing.done + 1) }
      let writing := writing.places label plain m
      Writing.others label plain (m + 1) codes { writing with skipped := writing.skipped + 1 }

/-- A label in Punycode. -/
def encode (label : List Char) : List Char :=
  let plain := label.filter fun c => c.toNat < 0x80
  let codes := ((label.filter fun c => 0x80 ≤ c.toNat).map Char.toNat).eraseDups.mergeSort
  let writing := Writing.others label plain.length 128 codes ⟨[], 0, 72, plain.length⟩
  plain ++ (if plain.isEmpty then [] else ['-']) ++ writing.written

/-- Numbers have to fit 32 bits. -/
def fits (n : Nat) : Option Nat := if n < UInt32.size then some n else none

/-- Reads a number and adds it to another one. -/
def number? (bias : Nat) : Nat → Nat → Nat → List Char → Option (Nat × List Char)
  | _, _, _, [] => none
  | place, weight, sum, c :: rest => do
      let n ← value? c
      let sum ← fits (sum + n * weight)
      let least := threshold bias place
      if n < least then some (sum, rest)
      else number? bias (place + 36) (← fits (weight * (36 - least))) sum rest

/-- Puts a character into a text at a place. -/
def insertAt (s : List Char) (place : Nat) (c : Char) : List Char :=
  s.take place ++ c :: s.drop place

/-- Reads the characters beyond ASCII into a label. Each takes at least one digit, so that there are
no more of them than the fuel. -/
def others? : Nat → Nat → Nat → Nat → List Char → List Char → Option (List Char)
  | _, _, _, _, label, [] => some label
  | 0, _, _, _, _, _ => none
  | fuel + 1, bias, code, place, label, written => do
      let (sum, rest) ← number? bias 36 1 place written
      let count := label.length + 1
      let code := code + sum / count
      if code < 0xD800 || (0xE000 ≤ code && code < 0x110000) then
        others? fuel (adapt (sum - place) count (place == 0)) code (sum % count + 1)
          (insertAt label (sum % count) (Char.ofNat code)) rest
      else none

/-- Reads a label in Punycode. Its last hyphen stands between ASCII characters and the others. -/
def decode? (written : List Char) : Option (List Char) :=
  let numbers := (written.reverse.takeWhile (· != '-')).reverse
  let plain := written.take (written.length - numbers.length)
  if plain.length = 1 || plain.any fun c => 0x80 ≤ c.toNat then none
  else others? written.length 72 128 0 plain.dropLast numbers

end Receipts.DomainName.Punycode
