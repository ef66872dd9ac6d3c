import Receipts.Text.AnyCase
import Receipts.Text.Blank
import Receipts.Text.Replace
import Receipts.Text.Word

/-!
# The text alternative of a document

The text of an HTML document is found in steps. Head and style blocks go first,
then ends of blocks become line ends and table cells become spaces, all other
tags go, a few entities are decoded, and last the blanks are brought into normal
form: no two spaces side by side, no two blank lines in a row, no blanks at the
ends of a line or of the text.

Each step reads its whole input from the left, and a step that removes something
joins the text on both sides.
-/

namespace Receipts.PlainText

open Text (Recogniser afterWord? replaceHits)

/-- The rest of a text after the first closing tag of this name. -/
def afterClosing? (name : List Char) : List Char → Option (List Char)
  | [] => none
  | c :: s =>
      let here :=
        match c, s with
        | '<', '/' :: s =>
            match afterWord? name s with
            | some ('>' :: rest) => some rest
            | _ => none
        | _, _ => none
      here.or (afterClosing? name s)

/-- Recognises an element of this name with everything in it. -/
def element (name : List Char) : Recogniser Unit
  | '<' :: s =>
      match afterWord? name s with
      | none => none
      | some inside =>
          if inside.head?.any Text.isWordChar then none
          else (afterClosing? name inside).map fun rest => ((), s.length + 1 - rest.length)
  | _ => none

/-- Recognises a head or a style element. -/
def hidden : Recogniser Unit := fun s =>
  (element ['h', 'e', 'a', 'd'] s).or (element ['s', 't', 'y', 'l', 'e'] s)

/-- Recognises a tag. -/
def tag : Recogniser Unit
  | '<' :: s =>
      let inside := s.takeWhile (· != '>')
      match s.dropWhile (· != '>') with
      | '>' :: _ => some ((), inside.length + 2)
      | _ => none
  | _ => none

/-- Recognises a run of spaces and tabs. -/
def spaces : Recogniser Unit := fun s =>
  let run := s.takeWhile fun c => c == ' ' || c == '\t'
  if run.isEmpty then none else some ((), run.length)

/-- The length of a text up to and with its last line end. -/
def throughLastLineEnd (s : List Char) : Nat :=
  (s.reverse.dropWhile (· != '\n')).length

/-- Recognises two line ends with nothing but blanks between them, as far as the blanks go. -/
def blankLines : Recogniser Unit
  | '\n' :: s =>
      let width := throughLastLineEnd (s.takeWhile Text.isBlank)
      if width = 0 then none else some ((), width + 1)
  | _ => none

/-- Tags that end a line or a cell, with what they become. -/
def breaks : List (String × String) :=
  [("<br>", "\n"), ("<br/>", "\n"), ("<br />", "\n"),
   ("</p>", "\n\n"), ("</div>", "\n"), ("</tr>", "\n"), ("</td>", " "),
   ("</h1>", "\n\n"), ("</h2>", "\n\n"), ("</h3>", "\n\n")]

/-- The entities that are decoded. The ampersand comes last, so nothing is decoded twice. -/
def entities : List (String × String) :=
  [("&nbsp;", " "), ("&middot;", "·"), ("&lt;", "<"), ("&gt;", ">"), ("&amp;", "&")]

/-- Replacements made one after another. -/
def replaceEach (replacements : List (String × String)) (s : List Char) : List Char :=
  replacements.foldl
    (fun s replacement => Text.replaceAll replacement.1.toList replacement.2.toList s) s

/-- The text without its tags and with its entities decoded. -/
def visible (html : List Char) : List Char :=
  let shown := replaceHits hidden (fun _ => []) html
  let untagged := replaceHits tag (fun _ => []) (replaceEach breaks shown)
  replaceEach entities untagged

/-- The text with its blanks in normal form. -/
def normalBlanks (s : List Char) : List Char :=
  let single := replaceHits spaces (fun _ => [' ']) s
  let joined := replaceHits blankLines (fun _ => ['\n', '\n']) single
  Text.trim (['\n'].intercalate ((List.splitOn '\n' joined).map Text.trim))

/-- The text alternative of a document. -/
def ofHtml (html : String) : String :=
  String.ofList (normalBlanks (visible html.toList))

end Receipts.PlainText
