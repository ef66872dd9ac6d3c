import Receipts.Catalog.Beacons
import Receipts.Catalog.Fanbasis
import Receipts.Catalog.StanStore
import Receipts.Error

/-!
# The catalog

Three templates, known by their ids in lower case. Asking for the HTML of an
unknown id gives the empty text; requiring an unknown template is an error.
-/

namespace Receipts.Catalog

/-- The templates in listed order. -/
def all : List PlatformTemplate := [beacons, stanStore, fanbasis]

/-- The ids in listed order. -/
def ids : List String := all.map PlatformTemplate.id

/-- The template with this id. -/
def find? (id : String) : Option PlatformTemplate :=
  all.find? fun template => template.id == id

/-- The template with this id, which has to be there. -/
def require (id : String) : Except ReceiptError PlatformTemplate :=
  match find? id with
  | some template => .ok template
  | none => .error (.unknownTemplate id)

/-- The HTML of a template, empty for an unknown id. -/
def html (id : String) : String :=
  match find? id with
  | some template => template.html
  | none => ""

end Receipts.Catalog
