import Receipts.Text.Case
import Receipts.Text.Replace

/-!
# Form fields

A placeholder carries no type of its own. The kind of input it asks for and the
label shown beside it are both read off its name.
-/

namespace Receipts

/-- The kind of input a field asks for. -/
inductive FieldType where
  | text
  | email
  | number
  | file
  | date
  deriving DecidableEq, Repr

namespace FieldType

/-- The kinds in their listed order. -/
def all : List FieldType := [.text, .email, .number, .file, .date]

/-- The name a kind is written with. -/
def name : FieldType → String
  | text => "text"
  | email => "email"
  | number => "number"
  | file => "file"
  | date => "date"

/-- The kind of a name, in exactly its written form. -/
def ofName? (s : String) : Option FieldType :=
  all.find? fun type => type.name == s

/-- Words that give a kind away, in order of precedence. -/
def clues : List (List String × FieldType) :=
  [(["email"], email),
   (["date"], date),
   (["price", "amount", "total"], number),
   (["logo", "image", "photo"], file)]

/-- The kind of the first clue in a lowered name, text without any. -/
def ofLowered (lowered : List Char) : FieldType :=
  match clues.find? fun clue => clue.1.any fun word => Text.occurs word.toList lowered with
  | some clue => clue.2
  | none => text

/-- The kind of input a placeholder of this name asks for; letter case does not matter. -/
def classify (placeholder : String) : FieldType :=
  ofLowered (Text.lower placeholder.toList)

end FieldType

/-- The words of a name between underscores, each in title case, one space apart. -/
def labelOf (placeholder : String) : String :=
  String.ofList
    ([' '].intercalate ((List.splitOn '_' placeholder.toList).map Text.titleCase))

/-- One input of a form. -/
structure Field where
  key : String
  label : String
  type : FieldType
  hint : String
  required : Bool
  deriving DecidableEq, Repr

/-- The field a placeholder asks for. -/
def Field.ofPlaceholder (name : String) : Field where
  key := name
  label := labelOf name
  type := FieldType.classify name
  hint := "Enter " ++ String.ofList (Text.lower (labelOf name).toList)
  required := true

end Receipts
