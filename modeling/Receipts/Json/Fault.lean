import Receipts.Json.Number
import Receipts.Text.Printable

/-!
# Why a document cannot be read

A fault has a cause and the place it arose at. A document may break off, it may
not be JSON, or it may be JSON of another kind than was asked for. The place is
the path of members and items down to the value that was being read; a fault in
a member's key lies at an unknown place of the object.
-/

namespace Receipts.Json

/-- What stood where something else was expected. -/
inductive Found where
  | null
  | bool (b : Bool)
  | number (n : Number)
  | text (s : String)
  | list
  | object
  deriving DecidableEq, Repr

/-- What stood there, in words. -/
def Found.describe : Found → String
  | .null => "null"
  | .bool true => "boolean `true`"
  | .bool false => "boolean `false`"
  | .number (.whole i) => "integer `" ++ toString i ++ "`"
  | .number (.double bits) => "floating point `" ++ String.ofList (doubleText bits) ++ "`"
  | .text s => "string " ++ Text.quotedInMessage s
  | .list => "sequence"
  | .object => "map"

/-- Why reading stopped. -/
inductive Cause where
  | endInValue
  | endInList
  | endInObject
  | endInText
  | expectedColon
  | expectedListEnd
  | expectedObjectEnd
  | expectedWord
  | expectedValue
  | badEscape
  | badNumber
  | numberOutOfRange
  | badCodePoint
  | controlCharacter
  | keyNotText
  | loneSurrogate
  | trailingComma
  | trailingCharacters
  | endOfEscape
  | tooDeep
  | wrongKind (found : Found) (expected : String)
  | repeatedMember (name : String)
  | missingMember (name : String)
  | unknownChoice (name : String) (known : List String)
  | wrongLength (length : Nat) (expected : String)
  deriving DecidableEq, Repr

/-- The three ways in which a document fails. -/
inductive Category where
  | malformed
  | mismatched
  | truncated
  deriving DecidableEq, Repr

/-- A name in backquotes. -/
def ticked (name : String) : String := "`" ++ name ++ "`"

/-- The choices there are, in words. -/
def choicesText : List String → String
  | [] => "there are no variants"
  | [a] => "expected " ++ ticked a
  | [a, b] => "expected " ++ ticked a ++ " or " ++ ticked b
  | names => "expected one of " ++ ", ".intercalate (names.map ticked)

namespace Cause

/-- The cause in words. -/
def message : Cause → String
  | endInValue => "EOF while parsing a value"
  | endInList => "EOF while parsing a list"
  | endInObject => "EOF while parsing an object"
  | endInText => "EOF while parsing a string"
  | expectedColon => "expected `:`"
  | expectedListEnd => "expected `,` or `]`"
  | expectedObjectEnd => "expected `,` or `\x7d`"
  | expectedWord => "expected ident"
  | expectedValue => "expected value"
  | badEscape => "invalid escape"
  | badNumber => "invalid number"
  | numberOutOfRange => "number out of range"
  | badCodePoint => "invalid unicode code point"
  | controlCharacter =>
      "control character (\\u0000-\\u001F) found while parsing a string"
  | keyNotText => "key must be a string"
  | loneSurrogate => "lone leading surrogate in hex escape"
  | trailingComma => "trailing comma"
  | trailingCharacters => "trailing characters"
  | endOfEscape => "unexpected end of hex escape"
  | tooDeep => "recursion limit exceeded"
  | wrongKind found expected => "invalid type: " ++ found.describe ++ ", expected " ++ expected
  | repeatedMember name => "duplicate field " ++ ticked name
  | missingMember name => "missing field " ++ ticked name
  | unknownChoice name known => "unknown variant " ++ ticked name ++ ", " ++ choicesText known
  | wrongLength length expected =>
      "invalid length " ++ toString length ++ ", expected " ++ expected

/-- Whether the document broke off, is not JSON, or is JSON of another kind. -/
def category : Cause → Category
  | endInValue | endInList | endInObject | endInText => .truncated
  | wrongKind .. | repeatedMember _ | missingMember _ | unknownChoice .. | wrongLength .. =>
      .mismatched
  | _ => .malformed

end Cause

/-- One step down into a document. -/
inductive Step where
  | member (key : String)
  | item (index : Nat)
  | unknown
  deriving DecidableEq, Repr

/-- A cause with the path to its place. -/
structure Fault where
  path : List Step
  cause : Cause
  deriving DecidableEq, Repr

namespace Fault

/-- The fault seen from one step further out. -/
def under (step : Step) (fault : Fault) : Fault :=
  { fault with path := step :: fault.path }

/-- The fault in words, without its place. -/
def message (fault : Fault) : String := fault.cause.message

/-- The category of its cause. -/
def category (fault : Fault) : Category := fault.cause.category

/-- A path in words: keys with points between them, indices in brackets. -/
def pathText : List Step → String
  | [] => ""
  | step :: rest => first step ++ String.join (rest.map later)
where
  first : Step → String
    | .member key => key
    | .item index => "[" ++ toString index ++ "]"
    | .unknown => "?"
  later : Step → String
    | .item index => "[" ++ toString index ++ "]"
    | step => "." ++ first step

/-- The fault in words after its place, when any step of the place is known. -/
def placedMessage (fault : Fault) : String :=
  if fault.path.all (· == .unknown) then fault.message
  else pathText fault.path ++ ": " ++ fault.message

end Fault

end Receipts.Json
