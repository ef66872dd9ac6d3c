import Receipts.Json.Format
import Receipts.Template.Form

/-!
# Forms as documents

A field is written with its hint under the name `placeholder`. A form is written
with its fields and image sources.
-/

namespace Receipts

open Json (textMember)

/-- The shape of a kind of input. -/
def FieldType.shape : Json.Shape := .choice (FieldType.all.map FieldType.name)

/-- The kind of input that a document names. -/
def FieldType.ofJson (json : Json) : FieldType :=
  (json.asText?.bind FieldType.ofName?).getD .text

/-- The format of a kind of input. -/
def FieldType.format : Json.Format FieldType :=
  ⟨FieldType.shape, FieldType.ofJson, fun type => .text type.name⟩

namespace Field

/-- The shape of a field. -/
def shape : Json.Shape :=
  .record "FieldDescriptor" (.ofList
    [textMember "key" .required,
     textMember "label" .required,
     ("type", .required, FieldType.shape),
     textMember "placeholder" .required,
     ("required", .required, .bool)])

/-- The field that a document describes. -/
def ofJson (json : Json) : Field where
  key := json.textAt "key"
  label := json.textAt "label"
  type := FieldType.ofJson ((json.member? "type").getD .null)
  hint := json.textAt "placeholder"
  required := (json.member? "required").any Json.isTrue

/-- The document of a field. -/
def toJson (field : Field) : Json :=
  .object
    [("key", .text field.key),
     ("label", .text field.label),
     ("type", .text field.type.name),
     ("placeholder", .text field.hint),
     ("required", .bool field.required)]

/-- The format of a field. -/
def format : Json.Format Field := ⟨shape, ofJson, toJson⟩

end Field

namespace Form

/-- The shape of a form. -/
def shape : Json.Shape :=
  .record "ParsedTemplate" (.ofList
    [("fields", .required, .list Field.shape),
     ("imageSources", .required, .list (.text "a string"))])

/-- The form that a document describes. -/
def ofJson (json : Json) : Form where
  fields := ((json.member? "fields").getD .null).items.map Field.ofJson
  imageSources := json.textsAt "imageSources"

/-- The members of a form's document. -/
def members (form : Form) : List (String × Json) :=
  [("fields", .list (form.fields.map Field.toJson)),
   ("imageSources", .list (form.imageSources.map .text))]

/-- The format of a form. -/
def format : Json.Format Form := ⟨shape, ofJson, fun form => .object form.members⟩

end Form

end Receipts
