import Receipts.Base64

/-!
# Texts in headers

A header holds lines of ASCII characters. A text that does not fit is written as
an encoded word, which holds its bytes in Base64.
-/

namespace Receipts.Mail

/-- A text as an encoded word. -/
def encodedWord (s : List Char) : List Char :=
  "=?utf-8?b?".toList ++ (Base64.encode (String.ofList s).toUTF8.toList ++ ['?', '='])

/-- A character that a line of a header can hold. -/
def isHeaderChar (c : Char) : Bool :=
  c != '\x00' && c != '\n' && c != '\x0d' && c.toNat < 0x80

/-- A text in a header. Neighbouring words that do not fit are one encoded word. -/
def headerText (s : List Char) : List Char :=
  let fits := fun (word : List Char) => word.all isHeaderChar
  let groups := (List.splitOn ' ' s).splitBy fun word next => fits word == fits next
  [' '].intercalate <| groups.map fun words =>
    let text := [' '].intercalate words
    if words.all fits then text else encodedWord text

end Receipts.Mail
