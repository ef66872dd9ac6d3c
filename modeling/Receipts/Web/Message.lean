import Receipts.Json.Format
import Receipts.Text.Utf8

/-!
# Requests and answers

A request has a method, a target, headers and a body. An answer has a status and
a body, which is a document, a plain text or nothing.
-/

namespace Receipts.Web

/-- A request to the service. -/
structure Request where
  method : String
  target : String
  headers : List (String × String)
  body : ByteArray

namespace Request

/-- The path of the target, without its query. -/
def path (request : Request) : List Char :=
  request.target.toList.takeWhile fun c => c != '?' && c != '#'

/-- The first header of a name in lower case, if it holds printable ASCII only. -/
def header? (request : Request) (name : String) : Option (List Char) :=
  match request.headers.find? fun header => header.1.map Char.toLower == name with
  | none => none
  | some (_, value) =>
      if value.toList.all fun c => c == '\t' || (0x20 ≤ c.toNat && c.toNat < 0x7F) then
        some value.toList
      else none

/-- The bytes of the body. -/
def bytes (request : Request) : List UInt8 := request.body.data.toList

end Request

/-- The body of an answer. -/
inductive Body where
  | none
  | document (json : Json)
  | text (s : String)

/-- An answer of the service. -/
structure Answer where
  status : Nat
  contentType : Option String := none
  allow : Option String := none
  body : Body := .none

namespace Answer

/-- An answer without a body. -/
def bare (status : Nat) : Answer := { status }

/-- An answer with a document. -/
def document (status : Nat) (json : Json) : Answer :=
  { status, contentType := some "application/json", body := .document json }

/-- An answer with a plain text. -/
def plain (status : Nat) (s : String) : Answer :=
  { status, contentType := some "text/plain; charset=utf-8", body := .text s }

/-- The answer to a request with a method that the place does not know. -/
def notAllowed (methods : String) : Answer := { status := 405, allow := some methods }

/-- The answer without its body. -/
def headOnly (answer : Answer) : Answer := { answer with body := .none }

end Answer

end Receipts.Web
