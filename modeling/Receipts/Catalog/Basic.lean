/-!
# Platform templates

A template is a document of static text and slots. A slot stands in the HTML as
a placeholder, so the HTML is what the scanner and the renderer work on; the
segments keep the author's reading of it.
-/

namespace Receipts

/-- A stretch of static text, or a slot for a value. -/
inductive Segment where
  | text (s : String)
  | slot (name : String)
  deriving DecidableEq, Repr

/-- A segment as it stands in the HTML. -/
def Segment.html : Segment → String
  | .text s => s
  | .slot name => "\x7b\x7b" ++ name ++ "\x7d\x7d"

/-- A receipt template written for one storefront platform. -/
structure PlatformTemplate where
  id : String
  name : String
  subject : String
  segments : List Segment
  placeholders : List String
  deriving DecidableEq, Repr

/-- The document of a template. -/
def PlatformTemplate.html (template : PlatformTemplate) : String :=
  String.join (template.segments.map Segment.html)

end Receipts
