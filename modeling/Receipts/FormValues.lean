import Receipts.KeyOrder
import Receipts.Template.Form
import Receipts.Text.Blank

/-!
# Values for a form

Values are kept by key in ascending order of the keys, so two sets of values
with the same contents are equal. A file is held as a URL: a remote one, or a
`data:` URL that carries the bytes.
-/

namespace Receipts

/-- Values by key. -/
structure FormValues where
  entries : List (String × String)
  ascending : Ascending entries := by simp
  deriving DecidableEq

namespace FormValues

/-- No values. -/
def empty : FormValues := ⟨[], List.Pairwise.nil⟩

/-- The value of a key. -/
def get? (values : FormValues) (key : String) : Option String :=
  values.entries.lookup key

/-- Sets the value of a key. -/
def insert (values : FormValues) (key value : String) : FormValues :=
  ⟨place key value values.entries, ascending_place key value values.ascending⟩

/-- Takes a key away. -/
def erase (values : FormValues) (key : String) : FormValues :=
  ⟨values.entries.filter (·.1 != key), values.ascending.filter _⟩

/-- Whether a key has a value. -/
def contains (values : FormValues) (key : String) : Bool :=
  (values.get? key).isSome

/-- The keys in ascending order. -/
def keys (values : FormValues) : List String :=
  values.entries.map (·.1)

/-- The number of keys. -/
def size (values : FormValues) : Nat :=
  values.entries.length

/-- Values from pairs; the last of several with one key counts. -/
def ofList (pairs : List (String × String)) : FormValues :=
  pairs.foldl (fun values pair => values.insert pair.1 pair.2) empty

/-- Takes over the keys of `other` that have no value yet. -/
def mergeMissing (values other : FormValues) : FormValues :=
  other.entries.foldl
    (fun merged pair => if merged.contains pair.1 then merged else merged.insert pair.1 pair.2)
    values

/-- Whether a field is without a value or has a blank one. -/
def lacks (values : FormValues) (field : Field) : Bool :=
  match values.get? field.key with
  | none => true
  | some value => Text.blank value

/-- The required keys of a form that are still without a value, in field order. -/
def missing (values : FormValues) (form : Form) : List String :=
  (form.fields.filter fun field => field.required && values.lacks field).map Field.key

end FormValues

end Receipts
