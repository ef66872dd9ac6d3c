import Receipts.Text.Pieces

/-!
# Placeholders

A placeholder is two opening braces, a name of one or more characters other
than a closing brace, and two closing braces. A name may contain opening
braces: of several openings before one close the leftmost counts.
-/

namespace Receipts.Template

/-- The text of a placeholder for `key`. -/
def token (key : List Char) : List Char :=
  '{' :: '{' :: (key ++ ['}', '}'])

/-- Reads the name of a placeholder at the front of a text. -/
def placeholder : Text.Recogniser (List Char)
  | '{' :: '{' :: s =>
      let name := s.takeWhile (· != '}')
      match s.dropWhile (· != '}') with
      | '}' :: '}' :: _ => if name.isEmpty then none else some (name, name.length + 4)
      | _ => none
  | _ => none

/-- The placeholders of a template with the text between them. -/
def pieces (html : List Char) : List (Text.Piece (List Char)) :=
  Text.pieces placeholder html

/-- Distinct placeholder names in order of first appearance. -/
def names (html : String) : List String :=
  ((Text.hits placeholder html.toList).map String.ofList).eraseDups

/-- The template with every placeholder replaced by its image. -/
def fill (image : List Char → List Char) (html : List Char) : List Char :=
  Text.replaceHits placeholder image html

theorem token_ne_nil (key : List Char) : token key ≠ [] := by
  simp [token]

theorem length_token (key : List Char) : (token key).length = key.length + 4 := by
  simp [token]

end Receipts.Template
