import Receipts.Json.Fault

/-!
# What can go wrong with templates and drafts

Scanning needs a source, the catalog knows a fixed set of ids, and a draft must
be readable and have HTML.
-/

namespace Receipts

/-- An error of the template engine. -/
inductive ReceiptError where
  | missingSource
  | invalidPattern (reason : String)
  | unknownTemplate (id : String)
  | unreadableDraft (fault : Json.Fault)
  | emptyDraft
  deriving DecidableEq, Repr

/-- The parts of the engine an error can come from. -/
inductive ErrorSource where
  | scan
  | catalog
  | draft
  deriving DecidableEq, Repr

namespace ReceiptError

/-- The part an error comes from. -/
def source : ReceiptError → ErrorSource
  | missingSource | invalidPattern _ => .scan
  | unknownTemplate _ => .catalog
  | unreadableDraft _ | emptyDraft => .draft

/-- What went wrong, without its source. -/
def reason : ReceiptError → String
  | missingSource => "No template source was provided"
  | invalidPattern reason => "Invalid scan pattern: " ++ reason
  | unknownTemplate id => "Unknown template: " ++ id
  | unreadableDraft fault => "Invalid draft: " ++ fault.message
  | emptyDraft => "Draft has no HTML"

/-- The error in words. -/
def message (error : ReceiptError) : String :=
  match error.source with
  | .scan => "Parse error: " ++ error.reason
  | .catalog => "Catalog error: " ++ error.reason
  | .draft => "Draft error: " ++ error.reason

end ReceiptError

end Receipts
