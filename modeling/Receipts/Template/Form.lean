import Receipts.Error
import Receipts.Field
import Receipts.Template.ImageSource
import Receipts.Template.Placeholder

/-!
# Forms

The form of a template has one field for each distinct placeholder, in the
order of the labels; fields of one label keep the order of appearance. It also
lists the image sources that embed a placeholder. Every text has a form.
-/

namespace Receipts

/-- What a template asks for. -/
structure Form where
  fields : List Field
  imageSources : List String
  deriving DecidableEq, Repr

namespace Form

/-- The form without fields. -/
def empty : Form := ⟨[], []⟩

/-- Fields in the order of their labels. -/
def sortByLabel (fields : List Field) : List Field :=
  fields.mergeSort fun a b => decide (a.label ≤ b.label)

/-- The form of a template. -/
def ofHtml (html : String) : Form where
  fields := sortByLabel ((Template.names html).map Field.ofPlaceholder)
  imageSources := Template.imageSources html

/-- The form of a template that may not have been given at all. -/
def ofSource : Option String → Except ReceiptError Form
  | some html => .ok (ofHtml html)
  | none => .error .missingSource

/-- The first field with this key. -/
def field? (form : Form) (key : String) : Option Field :=
  form.fields.find? fun field => field.key == key

/-- The keys in field order. -/
def keys (form : Form) : List String :=
  form.fields.map Field.key

/-- Whether the form asks for nothing. -/
def isEmpty (form : Form) : Bool :=
  form.fields.isEmpty

end Form

end Receipts
