import Receipts.FormValues
import Receipts.Json.Format

/-!
# Values as documents

Values are written as one flat object of texts. On loading, null becomes the
empty text, and a number, a truth value, a list or an object becomes its compact
canonical form. Of several members with one key the last counts.
-/

namespace Receipts.FormValues

/-- The text that a loaded value becomes. -/
def loaded : Json → String
  | .null => ""
  | .text s => s
  | json => json.canonical.render

/-- The values in the members of an object. -/
def ofMembers (members : List (String × Json)) : FormValues :=
  ofList (members.map fun member => (member.1, loaded member.2))

/-- The values of an object, none for anything else. -/
def ofJson : Json → FormValues
  | .object members => ofMembers members
  | _ => empty

/-- The values as one object. -/
def toJson (values : FormValues) : Json :=
  .object (values.entries.map fun entry => (entry.1, .text entry.2))

/-- The format of values. -/
def format : Json.Format FormValues := ⟨.map, ofJson, toJson⟩

/-- The values in a document that was read already, which has to be an object. -/
def ofDocument : Json → Except Json.Fault FormValues
  | .object members => .ok (ofMembers members)
  | json => .error ⟨[], .wrongKind (Json.foundIn json) "a map"⟩

end Receipts.FormValues
