/-!
# Blank characters

Blank means the White_Space property. A value that is blank throughout counts
as missing everywhere in this library, and trimming removes blanks from both
ends of a text and nothing else. Zero-width characters are not blank.
-/

namespace Receipts.Text

/-- A character with the White_Space property. -/
def isBlank (c : Char) : Bool :=
  let n := c.toNat
  n == 0x20 || (0x09 ≤ n && n ≤ 0x0D) ||
  (0x80 ≤ n &&
    (n == 0x85 || n == 0xA0 || n == 0x1680 || (0x2000 ≤ n && n ≤ 0x200A) ||
     n == 0x2028 || n == 0x2029 || n == 0x202F || n == 0x205F || n == 0x3000))

/-- Drops blanks at the front. -/
def trimStart (s : List Char) : List Char :=
  s.dropWhile isBlank

/-- Drops blanks at the end. -/
def trimEnd (s : List Char) : List Char :=
  (s.reverse.dropWhile isBlank).reverse

/-- Drops blanks at both ends. -/
def trim (s : List Char) : List Char :=
  trimEnd (trimStart s)

/-- The text without the blanks at its ends. -/
def trimmed (s : String) : String :=
  String.ofList (trim s.toList)

/-- A text of blanks only, the empty text included. -/
def blank (s : String) : Bool :=
  s.toList.all isBlank

theorem trimStart_cons_of_blank {c : Char} (s : List Char) (h : isBlank c = true) :
    trimStart (c :: s) = trimStart s := by
  simp [trimStart, h]

theorem trimStart_cons_of_visible {c : Char} (s : List Char) (h : isBlank c = false) :
    trimStart (c :: s) = c :: s := by
  simp [trimStart, h]

theorem toList_trimmed (s : String) : (trimmed s).toList = trim s.toList := by
  simp [trimmed]

end Receipts.Text
