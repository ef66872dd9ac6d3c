import Receipts.Text.Blank

/-!
# Code fences

A document may come wrapped in a code fence: three backticks and an info string
on the first line, three backticks at the end. Unwrapping drops the first line
and the fences at the end, however many, and the blanks around what is left. A
text without an opening fence only loses the blanks around it.
-/

namespace Receipts.Photo

/-- A reversed text without the fences it begins with. -/
def dropFences : List Char → List Char
  | '\x60' :: '\x60' :: '\x60' :: s => dropFences s
  | s => s

/-- The text after the first line end, the whole text if it has none. -/
def afterFirstLine (s : List Char) : List Char :=
  match s.dropWhile (· != '\n') with
  | [] => s
  | _ :: rest => rest

/-- A text out of its code fence. -/
def unfenced (content : List Char) : List Char :=
  match Text.trim content with
  | '\x60' :: '\x60' :: '\x60' :: rest =>
      Text.trim (dropFences (Text.trimEnd (afterFirstLine rest)).reverse).reverse
  | trimmed => trimmed

end Receipts.Photo
