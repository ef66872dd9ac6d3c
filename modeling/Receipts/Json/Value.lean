import Receipts.Json.Number
import Receipts.KeyOrder

/-!
# JSON values

An object keeps its members as they were read, in order and with repetitions.
The canonical form orders the members by key and keeps the last of several
with one key; two documents with the same canonical form say the same.
-/

namespace Receipts

/-- A JSON value. -/
inductive Json where
  | null
  | bool (b : Bool)
  | number (n : Json.Number)
  | text (s : String)
  | list (items : List Json)
  | object (members : List (String × Json))

namespace Json

/-- The number of a natural number. -/
def ofNat (n : Nat) : Json := .number (.whole n)

/-- The text or null. -/
def ofText? : Option String → Json
  | none => .null
  | some s => .text s

/-- The first member with this key, if the value is an object that has one. -/
def member? (key : String) : Json → Option Json
  | .object members => members.lookup key
  | _ => none

/-- The text, if the value is one. -/
def asText? : Json → Option String
  | .text s => some s
  | _ => none

/-- The text of a member, if it has one. -/
def textAt? (key : String) (json : Json) : Option String :=
  (json.member? key).bind asText?

/-- The text of a member, empty without one. -/
def textAt (key : String) (json : Json) : String :=
  (json.textAt? key).getD ""

/-- The items of a list, none for anything else. -/
def items : Json → List Json
  | .list items => items
  | _ => []

/-- The texts in the list that a member holds. -/
def textsAt (key : String) (json : Json) : List String :=
  ((json.member? key).getD .null).items.filterMap asText?

/-- Whether a value is the truth value `true`. -/
def isTrue : Json → Bool
  | .bool b => b
  | _ => false

mutual

/-- The value with the members of every object in key order, the last of each key. -/
def canonical : Json → Json
  | .list items => .list (canonicalItems items)
  | .object members => .object (placeAll (canonicalMembers members))
  | json => json

/-- The items in canonical form. -/
def canonicalItems : List Json → List Json
  | [] => []
  | json :: items => canonical json :: canonicalItems items

/-- The members with their values in canonical form, in the order given. -/
def canonicalMembers : List (String × Json) → List (String × Json)
  | [] => []
  | (key, json) :: members => (key, canonical json) :: canonicalMembers members

end

end Json

end Receipts
