import Receipts.Text.AnyCase
import Receipts.Text.Blank
import Receipts.Text.Replace
import Receipts.Text.Word

/-!
# Image sources

The source of an image tag is the first `src` in it that starts at a word
boundary and is followed by an equals sign and a value. A value is quoted, and
then may hold anything up to the closing quote, or it is bare and ends at a
blank or at the end of the tag. The scan reads no other structure of the
document.
-/

namespace Receipts.Template

open Text (afterWord?)

/-- A value up to the closing quote, and the rest after it. -/
def quotedValue? (quote : Char) (s : List Char) : Option (List Char × List Char) :=
  match s.dropWhile (· != quote) with
  | [] => none
  | _ :: rest => some (s.takeWhile (· != quote), rest)

/-- A value without quotes, and the rest after it. -/
def bareValue? (s : List Char) : Option (List Char × List Char) :=
  let inside := fun c => !Text.isBlank c && c != '>'
  if (s.takeWhile inside).isEmpty then none else some (s.takeWhile inside, s.dropWhile inside)

/-- An attribute's value at the front of a text, quoted if its quotes close. -/
def value? : List Char → Option (List Char × List Char)
  | [] => none
  | c :: s =>
      if c == '"' || c == '\x27' then (quotedValue? c s).or (bareValue? (c :: s))
      else bareValue? (c :: s)

/-- The value assigned at the front of a text, blanks around the equals sign aside. -/
def assigned? (s : List Char) : Option (List Char × List Char) :=
  match Text.trimStart s with
  | '=' :: rest => value? (Text.trimStart rest)
  | _ => none

/-- The source in the rest of a tag, where `left` is the character before it. -/
def sourceWithin (left : Char) : List Char → Option (List Char × List Char)
  | [] => none
  | c :: s =>
      let here :=
        if Text.isWordChar left then none
        else (afterWord? ['s', 'r', 'c'] (c :: s)).bind assigned?
      match here with
      | some found => some found
      | none => if c == '>' then none else sourceWithin c s

/-- Reads the source of an image tag at the front of a text. -/
def imageSource : Text.Recogniser (List Char)
  | '<' :: s =>
      match afterWord? ['i', 'm', 'g'] s with
      | none => none
      | some inside =>
        if inside.head?.any Text.isWordChar then none
        else (sourceWithin 'g' inside).map fun found => (found.1, s.length + 1 - found.2.length)
  | _ => none

/-- Whether a source may hold a placeholder. -/
def hasBraces (source : List Char) : Bool :=
  Text.occurs ['{', '{'] source && Text.occurs ['}', '}'] source

/-- The sources of the image tags that embed a placeholder, in order. -/
def imageSources (html : String) : List String :=
  ((Text.hits imageSource html.toList).filter hasBraces).map String.ofList

end Receipts.Template
