import Receipts.Json.Print
import Receipts.Json.Shape

/-!
# Formats of records

A format ties a type to its documents: the shape that a document must have, the
value that a document of the shape stands for, and the document that a value is
written as.
-/

namespace Receipts.Json

/-- How the values of a type are written as documents. -/
structure Format (α : Type) where
  shape : Shape
  ofJson : Json → α
  toJson : α → Json

namespace Format

/-- Reads a value from what is left of an input. -/
def parse {α : Type} (format : Format α) (s : Input) : Except Fault α :=
  (format.shape.parse s).map format.ofJson

/-- Reads a value from a text. -/
def ofText {α : Type} (format : Format α) (s : String) : Except Fault α :=
  format.parse (Input.ofString s)

/-- Writes a value in compact form. -/
def text {α : Type} (format : Format α) (a : α) : String :=
  (format.toJson a).render

/-- A text. -/
def string : Format String where
  shape := .text "a string"
  ofJson json := json.asText?.getD ""
  toJson := .text

end Format

/-- A member whose value is a text. -/
def textMember (name : String) (presence : Presence) : String × Presence × Shape :=
  (name, presence, .text "a string")

/-- A member whose value is a text or null. -/
def textOrNullMember (name : String) (presence : Presence) : String × Presence × Shape :=
  (name, presence, .option (.text "a string"))

/-- A member that is written only when it has a value. -/
def present (name : String) : Option String → List (String × Json)
  | none => []
  | some s => [(name, .text s)]

end Receipts.Json
