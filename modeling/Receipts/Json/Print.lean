import Receipts.Json.Value
import Receipts.Text.Hex

/-!
# Writing JSON

The compact form has no blanks. A text escapes the quote, the backslash and the
characters below U+0020, the latter by a letter where there is one and by four
hexadecimal digits otherwise; every other character stands for itself.
-/

namespace Receipts.Json

/-- How a character is written inside a text. -/
def escaped (c : Char) : List Char :=
  match c with
  | '"' => ['\\', '"']
  | '\\' => ['\\', '\\']
  | '\n' => ['\\', 'n']
  | '\r' => ['\\', 'r']
  | '\t' => ['\\', 't']
  | c =>
      if c.toNat < 0x20 then
        if c.toNat = 8 then ['\\', 'b']
        else if c.toNat = 12 then ['\\', 'f']
        else ['\\', 'u', '0', '0', Text.hexDigit (c.toNat / 16), Text.hexDigit (c.toNat % 16)]
      else [c]

/-- A text in quotes. -/
def quoted (s : List Char) : List Char :=
  '"' :: (s.flatMap escaped ++ ['"'])

mutual

/-- The compact form of a value. -/
def compact : Json → List Char
  | .null => ['n', 'u', 'l', 'l']
  | .bool true => ['t', 'r', 'u', 'e']
  | .bool false => ['f', 'a', 'l', 's', 'e']
  | .number n => n.text
  | .text s => quoted s.toList
  | .list items => '[' :: (compactItems items ++ [']'])
  | .object members => '{' :: (compactMembers members ++ ['}'])

/-- Items with commas between them. -/
def compactItems : List Json → List Char
  | [] => []
  | [json] => compact json
  | json :: next :: items => compact json ++ ',' :: compactItems (next :: items)

/-- Members with commas between them. -/
def compactMembers : List (String × Json) → List Char
  | [] => []
  | [(key, json)] => quoted key.toList ++ ':' :: compact json
  | (key, json) :: next :: members =>
      quoted key.toList ++ ':' :: (compact json ++ ',' :: compactMembers (next :: members))

end

/-- The compact form as a text. -/
def render (json : Json) : String :=
  String.ofList json.compact

end Receipts.Json
