import Receipts.Dialect
import Receipts.FormValues
import Receipts.Pattern.Search
import Receipts.Pattern.Source

/-!
# Recovering values

Values are recovered from a rendered receipt rule by rule. A rule that is no
pattern, that does not match, or whose group is blank contributes nothing, and
the first rule that gives a key its value decides it.
-/

namespace Receipts

/-- The value that a rule finds in a document, without blanks at its ends. -/
def Rule.value? (rule : Rule) (html : String) : Option String := do
  let pattern ← Pattern.ofSource? rule.pattern
  let found ← pattern.capture? 1 html.toList
  let value := Text.trim found
  if value.isEmpty then none else some (String.ofList value)

/-- Adds what a rule finds, unless its key has a value. -/
def Rule.apply (html : String) (values : FormValues) (rule : Rule) : FormValues :=
  match rule.value? html with
  | some value => if values.contains rule.key then values else values.insert rule.key value
  | none => values

/-- The values that a dialect recovers from a document. -/
def Dialect.extract (dialect : Dialect) (html : String) : FormValues :=
  dialect.rules.foldl (Rule.apply html) FormValues.empty

end Receipts
