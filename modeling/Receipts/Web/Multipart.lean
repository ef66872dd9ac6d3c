import Receipts.Text.Utf8
import Receipts.Web.MediaType

/-!
# Forms with files

A form with files is a sequence of parts between boundaries. What stands before
the first boundary is passed over, and two dashes after a boundary end the form.
A part has headers, which say its name and perhaps a file name and a media type,
and a content that ends at the line end before the next boundary.

Parts are read from the left and only as far as they are needed.
-/

namespace Receipts.Web

/-- A part of a form. -/
structure Part where
  name : Option String
  fileName : Option String
  mediaType : Option String
  content : List UInt8
  deriving DecidableEq, Repr

/-- What is found of a part that was asked for: the part, none of that name, a form that cannot be
read up to it, or a part that does not end. -/
inductive Upload where
  | found (part : Part)
  | absent
  | malformed
  | cutShort
  deriving DecidableEq, Repr

namespace Multipart

/-- The bytes before the first occurrence of a pattern, and those after it. -/
def splitAt? (pattern : List UInt8) :
    List UInt8 → List UInt8 → Option (List UInt8 × List UInt8)
  | before, [] => if pattern.isEmpty then some (before.reverse, []) else none
  | before, b :: rest =>
      if pattern.isPrefixOf (b :: rest) then
        some (before.reverse, (b :: rest).drop pattern.length)
      else splitAt? pattern (b :: before) rest

/-- A carriage return and a line feed. -/
def lineEnd : List UInt8 := [13, 10]

/-- Two dashes. -/
def dashes : List UInt8 := [45, 45]

/-- A space or a tab. -/
def isSpace (b : UInt8) : Bool := b == 32 || b == 9

/-- A blank of ASCII. -/
def isBlank (b : UInt8) : Bool := b == 32 || (9 ≤ b && b ≤ 13 && b != 11)

/-- A byte of a header's name. -/
def isNameByte (b : UInt8) : Bool :=
  b < 128 && MediaType.isToken (Char.ofNat b.toNat)

/-- A byte of a header's value. -/
def isValueByte (b : UInt8) : Bool := b == 9 || (32 ≤ b && b != 127)

/-- Headers by their names in lower case, latest first, so that the last of several counts. -/
abbrev Headers := List (List UInt8 × List UInt8)

/-- A letter in lower case. -/
def lowered (b : UInt8) : UInt8 := if 65 ≤ b && b ≤ 90 then b + 32 else b

/-- The bytes after a line end. A line feed alone ends a line too. -/
def afterLineEnd? : List UInt8 → Option (List UInt8)
  | 13 :: 10 :: rest => some rest
  | 10 :: rest => some rest
  | _ => none

/-- Reads headers up to the empty line, at most `fuel` of them. -/
def headers? : Nat → Headers → List UInt8 → Option Headers
  | 0, _, _ => none
  | fuel + 1, found, s =>
      match afterLineEnd? s with
      | some _ => some found
      | none =>
          match s.takeWhile isNameByte, s.dropWhile isNameByte with
          | [], _ => none
          | name, 58 :: rest =>
              let value := (rest.dropWhile isSpace).takeWhile isValueByte
              let trimmed := (value.reverse.dropWhile isSpace).reverse
              (afterLineEnd? ((rest.dropWhile isSpace).dropWhile isValueByte)).bind fun rest =>
                headers? fuel ((name.map lowered, trimmed) :: found) rest
          | _, _ => none

/-- The bytes after a byte with blanks before it. -/
def afterByte? (b : UInt8) (s : List UInt8) : Option (List UInt8) :=
  match s.dropWhile isBlank with
  | c :: rest => if c == b then some rest else none
  | [] => none

/-- Bytes up to a quote without a backslash before it, and whether a quote with one was passed. -/
def quoted? : List UInt8 → Bool → List UInt8 → Option (List UInt8 × Bool)
  | _, _, [] => none
  | before, escaped, b :: rest =>
      if b == 34 then
        if before.head? == some 92 then quoted? (b :: before) true rest
        else some (before.reverse, escaped)
      else quoted? (b :: before) escaped rest

/-- A text whose quotes have lost their backslashes. -/
def unescaped : List Char → List Char
  | '\\' :: '"' :: s => '"' :: unescaped s
  | c :: s => c :: unescaped s
  | [] => []

/-- The value of an attribute after its name: in quotes, or up to a semicolon or a space. -/
def attributeValue? (s : List UInt8) : Option String := do
  let rest ← afterByte? 61 s
  match afterByte? 34 rest with
  | some inside => do
      let (bytes, escaped) ← quoted? [] false inside
      let text ← Text.ofUtf8? bytes
      return if escaped then String.ofList (unescaped text.toList) else text
  | none => Text.ofUtf8? ((rest.dropWhile isBlank).takeWhile fun b => b != 59 && b != 32)

/-- The value of the first attribute of this name. A name that is the end of a longer word does not
count; `left` is the byte before. -/
def attributeFrom? (name : List UInt8) : Nat → Option UInt8 → List UInt8 → Option String
  | 0, _, _ => none
  | _ + 1, _, [] => none
  | fuel + 1, left, b :: rest =>
      if name.isPrefixOf (b :: rest) then
        let after := (b :: rest).drop name.length
        match left with
        | some l =>
            if isBlank l || l == 59 then attributeValue? after
            else attributeFrom? name fuel none after
        | none => attributeValue? after
      else attributeFrom? name fuel (some b) rest

/-- The value of an attribute of a part's disposition. -/
def attribute? (name : String) (headers : Headers) : Option String :=
  (headers.lookup (Text.utf8 "content-disposition")).bind fun disposition =>
    attributeFrom? (Text.utf8 name) (disposition.length + 1) none disposition

/-- The characters of a header that holds printable ASCII only. -/
def plainChars? (bytes : List UInt8) : Option (List Char) :=
  if bytes.all fun b => b == 9 || (32 ≤ b && b < 127) then
    some (bytes.map fun b => Char.ofNat b.toNat)
  else none

/-- The media type of a part in normal form, if it has a readable one. -/
def mediaType? (headers : Headers) : Option String :=
  ((headers.lookup (Text.utf8 "content-type")).bind plainChars?).bind fun chars =>
    (MediaType.ofText? chars).map fun type => String.ofList type.text

/-- What follows a boundary: the end of the form, or the headers of a part and the bytes from its
content on; nothing when neither can be read. -/
def opening? (s : List UInt8) : Option (Option (Headers × List UInt8)) :=
  if dashes.isPrefixOf s then some none
  else do
    let s := s.dropWhile isSpace
    if !lineEnd.isPrefixOf s then none
    else
      let (head, content) ← splitAt? (lineEnd ++ lineEnd) [] (s.drop lineEnd.length)
      let headers ← headers? (head.length + 4) [] (head ++ lineEnd ++ lineEnd)
      if 32 < headers.length then none else some (some (headers, content))

/-- Looks for the first part of a name after a boundary, through at most `fuel` parts. -/
def uploadFrom (delimiter : List UInt8) (name : String) : Nat → List UInt8 → Upload
  | 0, _ => .malformed
  | fuel + 1, s =>
      match opening? s with
      | none => .malformed
      | some none => .absent
      | some (some (headers, rest)) =>
          let wanted := attribute? "name" headers == some name
          match splitAt? (lineEnd ++ delimiter) [] rest with
          | none => if wanted then .cutShort else .malformed
          | some (content, rest) =>
              if wanted then
                .found ⟨some name, attribute? "filename" headers, mediaType? headers, content⟩
              else uploadFrom delimiter name fuel rest

/-- The first part of a name in a form. -/
def upload (boundary name : String) (form : List UInt8) : Upload :=
  let delimiter := dashes ++ Text.utf8 boundary
  match splitAt? delimiter [] form with
  | none => .malformed
  | some (_, rest) => uploadFrom delimiter name (rest.length + 1) rest

end Multipart

end Receipts.Web
