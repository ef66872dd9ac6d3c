/-!
# Base paths

A base path comes before every place of the service. Slashes at its ends do not
count, and an empty one is none. Two braces stand for one. A name in braces, at
the end of a segment, stands for any text there that is not empty.

Not every text is a base path: braces have to be used as above, and no segment
begins with a colon or a star.
-/

namespace Receipts.Web

/-- A segment of a base path: a text, and perhaps a name for whatever follows it. -/
structure BaseSegment where
  text : List Char
  name : Option (List Char) := none
  deriving DecidableEq, Repr

/-- A named part of a path, as it is written there. -/
structure Capture where
  name : List Char
  written : List Char
  deriving DecidableEq, Repr

namespace BaseSegment

/-- The name that is closed by the last brace of a text, nothing if it is closed earlier or not at
all; `name` holds it so far, latest first. -/
def closedName? : List Char → List Char → Option (List Char)
  | _, [] => none
  | [], '}' :: _ => none
  | name, '}' :: '}' :: s => closedName? ('}' :: name) s
  | name, ['}'] => some name.reverse
  | _, '}' :: _ => none
  | _, '*' :: _ => none
  | name, '{' :: '{' :: s => closedName? ('{' :: name) s
  | name, c :: s => closedName? (c :: name) s

/-- Reads the braces in a segment; `text` holds what comes before, latest first. -/
def read? : List Char → List Char → Option BaseSegment
  | text, [] => some ⟨text.reverse, none⟩
  | text, '{' :: '{' :: s => read? ('{' :: text) s
  | text, '}' :: '}' :: s => read? ('}' :: text) s
  | text, '{' :: s => (closedName? [] s).map fun name => ⟨text.reverse, some name⟩
  | _, '}' :: _ => none
  | text, c :: s => read? (c :: text) s

/-- Reads a segment. -/
def ofWritten? (written : List Char) : Option BaseSegment :=
  if written.head? == some ':' || written.head? == some '*' then none else read? [] written

/-- What a segment captures of a segment of a path, nothing if the two do not fit. -/
def captures? (segment : BaseSegment) (written : List Char) : Option (List Capture) :=
  match segment.name with
  | none => if written = segment.text then some [] else none
  | some name =>
      if segment.text.isPrefixOf written && segment.text.length < written.length then
        some [⟨name, written.drop segment.text.length⟩]
      else none

end BaseSegment

/-- The segments before every place of the service. -/
abbrev BasePath := List BaseSegment

namespace BasePath

/-- A text without the slashes at its ends. -/
def withoutSlashes (s : List Char) : List Char :=
  ((s.dropWhile (· == '/')).reverse.dropWhile (· == '/')).reverse

/-- Reads a base path. -/
def ofText? (s : String) : Option BasePath :=
  let inner := withoutSlashes s.toList
  if inner.isEmpty then some []
  else (List.splitOn '/' inner).mapM BaseSegment.ofWritten?

/-- The rest of a path after a base path, with what the base path captures. -/
def strip? : BasePath → List (List Char) → Option (List Capture × List (List Char))
  | [], written => some ([], written)
  | _ :: _, [] => none
  | segment :: segments, first :: rest =>
      match segment.captures? first, strip? segments rest with
      | some captures, some (later, rest) => some (captures ++ later, rest)
      | _, _ => none

end BasePath

end Receipts.Web
