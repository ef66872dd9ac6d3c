import Receipts.Text.PrintableTable
import Receipts.Text.Word

/-!
# Texts quoted in messages

A message shows a text in double quotes. Quotes and backslashes are escaped, so
are tabs, line ends and NUL; characters without a printed form of their own are
spelled by their hexadecimal number in braces.
-/

namespace Receipts.Text

/-- Whether a character is shown as it is. -/
def isPrintable (c : Char) : Bool :=
  if c.toNat < 0x80 then 0x20 ≤ c.toNat && c.toNat != 0x7F
  else !inRanges unprintableRanges c.toNat

/-- A character as a quoted message shows it. -/
def shown (c : Char) : List Char :=
  match c with
  | '"' => ['\\', '"']
  | '\\' => ['\\', '\\']
  | '\n' => ['\\', 'n']
  | '\r' => ['\\', 'r']
  | '\t' => ['\\', 't']
  | c =>
      if c.toNat = 0 then ['\\', '0']
      else if isPrintable c then [c]
      else '\\' :: 'u' :: '{' :: (Nat.toDigits 16 c.toNat ++ ['}'])

/-- A text as a message quotes it. -/
def quotedInMessage (s : String) : String :=
  String.ofList ('"' :: (s.toList.flatMap shown ++ ['"']))

end Receipts.Text
